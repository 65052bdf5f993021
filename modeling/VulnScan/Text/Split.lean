/-!
# Cutting texts at a separator

Texts are cut as lists of characters. `splitAll` cuts at every separator and keeps empty pieces;
`splitFirst` and `splitLast` cut once. `joinWith` is the way back: joining the pieces that
`splitAll` yields gives the text again (`joinWith_splitAll`).
-/

set_option autoImplicit false

namespace VulnScan.Text

/-- The pieces of `s` between separators `sep`; there is always at least one piece. -/
def splitAll (sep : Char) : List Char → List (List Char)
  | [] => [[]]
  | c :: cs =>
    if c = sep then [] :: splitAll sep cs
    else match splitAll sep cs with
      | [] => [[c]]
      | p :: ps => (c :: p) :: ps

/-- The text before and after the first `sep`, if there is one. -/
def splitFirst (sep : Char) : List Char → Option (List Char × List Char)
  | [] => none
  | c :: cs =>
    if c = sep then some ([], cs)
    else (splitFirst sep cs).map fun p => (c :: p.1, p.2)

/-- The text before and after the last `sep`, if there is one. -/
def splitLast (sep : Char) (s : List Char) : Option (List Char × List Char) :=
  (splitFirst sep s.reverse).map fun p => (p.2.reverse, p.1.reverse)

/-- What follows `mark` in `s`, if `s` starts with it. -/
def after : (mark s : List Char) → Option (List Char)
  | [], s => some s
  | _ :: _, [] => none
  | m :: ms, c :: cs => if m = c then after ms cs else none

/-- The text before and after the first place where `mark` stands in `s`. -/
def splitAtMark (mark : List Char) : List Char → Option (List Char × List Char)
  | [] => (after mark []).map fun r => ([], r)
  | c :: cs =>
    match after mark (c :: cs) with
    | some r => some ([], r)
    | none => (splitAtMark mark cs).map fun p => (c :: p.1, p.2)

/-- `s` without the characters `c` at its end. -/
def dropEnd (c : Char) (s : List Char) : List Char := (s.reverse.dropWhile (· == c)).reverse

/-- The pieces, with `sep` between neighbours. -/
def joinWith (sep : List Char) : List (List Char) → List Char
  | [] => []
  | [p] => p
  | p :: q :: ps => p ++ sep ++ joinWith sep (q :: ps)

/-- The texts, with `sep` between neighbours. -/
def joinTexts (sep : String) (pieces : List String) : String :=
  String.ofList (joinWith sep.toList (pieces.map String.toList))

/-! ## Small facts -/

theorem splitAll_ne_nil (sep : Char) (s : List Char) : splitAll sep s ≠ [] := by
  cases s with
  | nil => simp [splitAll]
  | cons c cs =>
    simp only [splitAll]
    split
    · simp
    · split <;> simp

theorem joinWith_cons (sep p : List Char) {ps : List (List Char)} (h : ps ≠ []) :
    joinWith sep (p :: ps) = p ++ sep ++ joinWith sep ps := by
  cases ps with
  | nil => exact absurd rfl h
  | cons q qs => rfl

/-- Cutting loses nothing: the pieces, joined again, are the text. -/
theorem joinWith_splitAll (sep : Char) (s : List Char) :
    joinWith [sep] (splitAll sep s) = s := by
  induction s with
  | nil => rfl
  | cons c cs ih =>
    simp only [splitAll]
    split
    · next h => rw [joinWith_cons _ _ (splitAll_ne_nil sep cs), ih, h]; rfl
    · split
      · next h => exact absurd h (splitAll_ne_nil sep cs)
      · next p ps h =>
        rw [h] at ih
        cases ps with
        | nil => simpa [joinWith] using ih
        | cons q qs => simpa [joinWith] using ih

end VulnScan.Text
