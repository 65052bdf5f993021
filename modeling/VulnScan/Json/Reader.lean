import VulnScan.Json.Value
import VulnScan.Text.Split
import VulnScan.Text.Utf8

/-!
# Reading JSON

The reader turns a text into a `Value` and the rest of the text. It never fails: a grammatical
fault is recorded in the value at the place where it stands, and reading ends there. Blanks are
the space, the tab, the line feed and the carriage return.

Nesting is not limited. A reader that calls itself for every array and object within another has to
end at some depth, and 128 is customary. Here the depth does not matter: the decoders of this
library look no deeper than their records are nested, which is a few levels, and what they skip is
skipped without such calls.

A text may come in octets, and some of them may write no character. Such a gap is a fault like any
other where a token should stand, but within a string it is met only by decoding the string.

Every reading step says that it leaves at most the text it was given, which is what lets the
mutual recursion end.
-/

set_option autoImplicit false

namespace VulnScan.Json

/-- Whether `c` may stand between tokens. -/
def isSpace (c : Char) : Bool := c = ' ' || c = '\n' || c = '\t' || c = '\r'

/-- `s` from its first token on. -/
def skipSpace (s : List Char) : List Char := s.dropWhile isSpace

theorem length_skipSpace_le (s : List Char) : (skipSpace s).length ≤ s.length :=
  (List.dropWhile_suffix _).length_le

theorem length_lt_of_skipSpace {s r : List Char} {c : Char} (h : skipSpace s = c :: r) :
    r.length < s.length := by
  have := length_skipSpace_le s
  rw [h] at this
  exact this

/-! ## Gaps -/

/-- What stands for an octet that is part of no character. -/
def gap : Char := '\x00'

/-- A character of a text as the reader sees it. All control characters but the blanks are the same
fault wherever they stand, so another one can take the place of the one that stands for gaps. -/
def seen (c : Char) : Char := if c = gap then '\x01' else c

/-- A character or a gap as the reader sees it. -/
def seenMark : Text.Utf8.Mark → List Char
  | .char c => [seen c]
  | .gap octets => List.replicate octets gap

/-- A text as the reader sees it. -/
def seenText (s : String) : List Char := s.toList.map seen

/-- The text in octets as the reader sees it. -/
def seenOctets (os : List UInt8) : List Char := (Text.Utf8.decode os).flatMap seenMark

/-! ## Strings -/

/-- A piece of a string: a character that stands for itself or is escaped by a letter, the 16-bit
unit of a numeric escape, or a gap. -/
inductive Piece where
  | char (c : Char)
  | unit (n : Nat)
  | gap
deriving DecidableEq

/-- The number written by four hexadecimal digits. -/
def hexUnit? (a b c d : Char) : Option Nat := do
  let a ← Text.hexValue? a
  let b ← Text.hexValue? b
  let c ← Text.hexValue? c
  let d ← Text.hexValue? d
  return ((16 * a + b) * 16 + c) * 16 + d

/-- The character that a letter after a backslash stands for. -/
def escaped? (c : Char) : Option Char :=
  match c with
  | '"' => some '"'
  | '\\' => some '\\'
  | '/' => some '/'
  | 'b' => some '\x08'
  | 'f' => some '\x0c'
  | 'n' => some '\n'
  | 'r' => some '\r'
  | 't' => some '\t'
  | _ => none

/-- The flaw of a numeric escape with fewer than four characters left: the text is over, unless
four octets are left. -/
def shortEscape (s : List Char) : Flaw :=
  if Text.Utf8.size s < 4 then .truncated else .digits

/-- The pieces of a string up to its closing quote, and the rest after the quote or the flaw that
comes first. -/
def scanString : List Char → List Piece × Except Flaw (List Char)
  | [] => ([], .error .truncated)
  | '"' :: r => ([], .ok r)
  | '\\' :: 'u' :: a :: b :: c :: d :: r =>
    match hexUnit? a b c d with
    | some n => let t := scanString r; (.unit n :: t.1, t.2)
    | none => ([], .error .digits)
  | '\\' :: 'u' :: r => ([], .error (shortEscape r))
  | ['\\'] => ([], .error .truncated)
  | '\\' :: e :: r =>
    match escaped? e with
    | some c => let t := scanString r; (.char c :: t.1, t.2)
    | none => ([], .error .letter)
  | c :: r =>
    if c = gap then let t := scanString r; (.gap :: t.1, t.2)
    else if c.toNat < 32 then ([], .error .control)
    else let t := scanString r; (.char c :: t.1, t.2)

/-- Whether a unit is the first half of a pair. -/
def isHigh (n : Nat) : Bool := 0xD800 ≤ n && n ≤ 0xDBFF

/-- Whether a unit is the second half of a pair. -/
def isLow (n : Nat) : Bool := 0xDC00 ≤ n && n ≤ 0xDFFF

/-- The flaw of a first half at the end of a string with the given flaw: the escape that should
follow is looked for first, and its digits are read before they count as a half. -/
def openFlaw : Option Flaw → Flaw
  | some .truncated => .truncated
  | some .digits => .digits
  | _ => .half

/-- The characters of a string; the two halves of a pair have to stand together. The flaw, if there
is one, comes after the pieces. Gaps are looked for last, when there is no flaw but them. -/
def assemble (flaw : Option Flaw) : List Piece → Except Flaw (List Char)
  | [] =>
    match flaw with
    | none => .ok []
    | some flaw => .error flaw
  | .char c :: ps => (assemble flaw ps).map (c :: ·)
  | .gap :: ps => do
    let _ ← assemble flaw ps
    .error .gap
  | .unit n :: .unit m :: ps =>
    if isHigh n then
      if isLow m then
        (assemble flaw ps).map (Char.ofNat (0x10000 + (n - 0xD800) * 0x400 + (m - 0xDC00)) :: ·)
      else .error .unpaired
    else if isLow n then .error .unpaired
    else (assemble flaw (.unit m :: ps)).map (Char.ofNat n :: ·)
  | .unit n :: ps =>
    if isHigh n then .error (if ps = [] then openFlaw flaw else .half)
    else if isLow n then .error .unpaired
    else (assemble flaw ps).map (Char.ofNat n :: ·)

/-- The flaws of a string that ends with `flaw` after some pieces. -/
def unended (ps : List Piece) (flaw : Flaw) : Unended :=
  match assemble (some flaw) ps with
  | .ok _ => ⟨flaw, flaw⟩
  | .error first => ⟨first, flaw⟩

/-- A string after its opening quote: its content with the rest of the text, or the flaws of a
string that does not end. -/
def readString (s : List Char) : Except Unended (Content × List Char) :=
  match scanString s with
  | (ps, .ok rest) => .ok ((assemble none ps).map String.ofList, rest)
  | (ps, .error flaw) => .error (unended ps flaw)

theorem length_scanString_le (s : List Char) :
    ∀ r, (scanString s).2 = .ok r → r.length ≤ s.length := by
  fun_induction scanString s <;> intro q hq <;> simp_all <;>
    (rename_i ih; have := ih q hq; omega)

theorem length_readString_le {s r : List Char} {content : Content}
    (h : readString s = .ok (content, r)) : r.length ≤ s.length := by
  simp only [readString] at h
  split at h
  · next ps rest hs =>
    cases h
    exact length_scanString_le s _ (by rw [hs])
  · simp at h

/-! ## Numbers and words -/

/-- The digits at the start of `s`, and the rest. -/
def spanDigits (s : List Char) : List Char × List Char :=
  (s.takeWhile Text.isDigit, s.dropWhile Text.isDigit)

/-- The fault of a number in which `s` stands where a digit should. -/
def digitFault (s : List Char) : Fault := if s = [] then .truncated else .malformed

/-- The digits of an exponent whose sign has been read. -/
def signedDigits (negative : Bool) (s : List Char) :
    Except Fault ((Bool × List Char) × List Char) :=
  let p := spanDigits s
  if p.1 = [] then .error (digitFault s) else .ok ((negative, p.1), p.2)

/-- The digits of an exponent after its letter, with their sign. -/
def readExponent (s : List Char) : Except Fault ((Bool × List Char) × List Char) :=
  match s with
  | '-' :: r => signedDigits true r
  | '+' :: r => signedDigits false r
  | s => signedDigits false s

/-- The exponent of a number, if it has one. -/
def readExponent? (s : List Char) : Except Fault (Option (Bool × List Char) × List Char) :=
  match s with
  | c :: r =>
    if c = 'e' ∨ c = 'E' then (readExponent r).map fun p => (some p.1, p.2) else .ok (none, s)
  | [] => .ok (none, [])

/-- The digits after the point of a number, if it has one. -/
def readFraction? (s : List Char) : Except Fault (List Char × List Char) :=
  match s with
  | '.' :: r =>
    let p := spanDigits r
    if p.1 = [] then .error (digitFault r) else .ok p
  | s => .ok ([], s)

/-- The whole digits of a number: a zero, or digits that do not start with one. -/
def readWhole (s : List Char) : Except Fault (List Char × List Char) :=
  match s with
  | '0' :: r =>
    if (r.head?.map Text.isDigit).getD false then .error .malformed else .ok (['0'], r)
  | s =>
    let p := spanDigits s
    if p.1 = [] then .error (digitFault s) else .ok p

/-- A number whose sign has been read. -/
def readNumber (negative : Bool) (s : List Char) : Except Fault (Number.Literal × List Char) := do
  let (whole, s) ← readWhole s
  let (fraction, s) ← readFraction? s
  let (exponent, s) ← readExponent? s
  return (⟨negative, whole, fraction, exponent⟩, s)

/-- The rest after the letters of a word. -/
def readWord : (letters s : List Char) → Except Fault (List Char)
  | [], s => .ok s
  | _ :: _, [] => .error .truncated
  | l :: ls, c :: cs => if l = c then readWord ls cs else .error .malformed

theorem length_span_le (s : List Char) : (spanDigits s).2.length ≤ s.length :=
  (List.dropWhile_suffix _).length_le

theorem length_signedDigits_le {negative : Bool} {s : List Char}
    {p : (Bool × List Char) × List Char} (h : signedDigits negative s = .ok p) :
    p.2.length ≤ s.length := by
  simp only [signedDigits] at h
  by_cases he : (spanDigits s).1 = []
  · simp [he] at h
  · simp only [he, if_false, Except.ok.injEq] at h
    rw [← h]
    exact length_span_le s

theorem length_readExponent_le {s : List Char} {p : (Bool × List Char) × List Char}
    (h : readExponent s = .ok p) : p.2.length ≤ s.length := by
  simp only [readExponent] at h
  split at h
  · next t =>
    exact Nat.le_succ_of_le (length_signedDigits_le h)
  · next t =>
    exact Nat.le_succ_of_le (length_signedDigits_le h)
  · exact length_signedDigits_le h

theorem length_readExponent?_le {s : List Char} {p : Option (Bool × List Char) × List Char}
    (h : readExponent? s = .ok p) : p.2.length ≤ s.length := by
  simp only [readExponent?] at h
  split at h
  · next c t =>
    split at h
    · cases ht : readExponent t with
      | error f => simp [ht, Except.map] at h
      | ok q =>
        simp only [ht, Except.map, Except.ok.injEq] at h
        have := length_readExponent_le ht
        rw [← h]
        simp only [List.length_cons]
        omega
    · cases h; simp
  · cases h; simp

theorem length_readFraction?_le {s : List Char} {p : List Char × List Char}
    (h : readFraction? s = .ok p) : p.2.length ≤ s.length := by
  simp only [readFraction?] at h
  split at h
  · next t =>
    by_cases he : (spanDigits t).1 = []
    · simp [he] at h
    · simp only [he, if_false, Except.ok.injEq] at h
      have := length_span_le t
      rw [← h]
      simp only [List.length_cons]
      omega
  · cases h; simp

theorem length_readWhole_le {s : List Char} {p : List Char × List Char}
    (h : readWhole s = .ok p) : p.2.length ≤ s.length := by
  simp only [readWhole] at h
  split at h
  · split at h <;> cases h
    simp
  · next t =>
    by_cases he : (spanDigits s).1 = []
    · simp [he] at h
    · simp only [he, if_false, Except.ok.injEq] at h
      have := length_span_le s
      rw [← h]
      omega

theorem length_readNumber_le {negative : Bool} {s : List Char}
    {p : Number.Literal × List Char} (h : readNumber negative s = .ok p) :
    p.2.length ≤ s.length := by
  simp only [readNumber, bind, Except.bind, pure, Except.pure] at h
  cases hw : readWhole s with
  | error f => simp [hw] at h
  | ok w =>
    simp only [hw] at h
    cases hf : readFraction? w.2 with
    | error f => simp [hf] at h
    | ok q =>
      simp only [hf] at h
      cases he : readExponent? q.2 with
      | error f => simp [he] at h
      | ok e =>
        simp only [he, Except.ok.injEq] at h
        have h1 := length_readWhole_le hw
        have h2 := length_readFraction?_le hf
        have h3 := length_readExponent?_le he
        subst h
        show e.2.length ≤ s.length
        omega

theorem length_readWord_le {letters s r : List Char} (h : readWord letters s = .ok r) :
    r.length ≤ s.length := by
  fun_induction readWord letters s <;> simp_all
  omega

/-! ## Values -/

/-- What a reading step yields: a value and the rest, which is no longer than the text. -/
structure Step (α : Type) (s : List Char) where
  value : α
  rest : List Char
  le : rest.length ≤ s.length

/-- The end of reading at a fault. -/
def Step.stop {α : Type} {s : List Char} (a : α) : Step α s := ⟨a, [], Nat.zero_le _⟩

/-- The step of a text that starts with one more character. -/
def Step.cons {α : Type} {c : Char} {s : List Char} (t : Step α s) : Step α (c :: s) :=
  ⟨t.value, t.rest, by have := t.le; simp only [List.length_cons]; omega⟩

/-- A word after its first letter. -/
def wordStep (v : Value) (letters s : List Char) : Step Value s :=
  match h : readWord letters s with
  | .ok rest => ⟨v, rest, length_readWord_le h⟩
  | .error fault => .stop (.broken (.word fault))

/-- A number after its sign. -/
def numberStep (negative : Bool) (s : List Char) : Step Value s :=
  match h : readNumber negative s with
  | .ok p => ⟨.number p.1, p.2, length_readNumber_le h⟩
  | .error fault => .stop (.broken (.number fault))

/-- A string after its opening quote. -/
def stringStep (s : List Char) : Step (Except Unended Content) s :=
  match h : readString s with
  | .ok (content, rest) => ⟨.ok content, rest, length_readString_le h⟩
  | .error flaws => .stop (.error flaws)

/-- A value that has no parts, at its first character. -/
def atomStep (s : List Char) : Step Value s :=
  match s with
  | [] => .stop (.broken .missing)
  | '"' :: r =>
    let t := stringStep r
    match t.value with
    | .ok content => ⟨.string content, t.rest, Nat.le_succ_of_le t.le⟩
    | .error flaws => .stop (.broken (.text flaws))
  | 'n' :: r => (wordStep .null ['u', 'l', 'l'] r).cons
  | 't' :: r => (wordStep (.bool true) ['r', 'u', 'e'] r).cons
  | 'f' :: r => (wordStep (.bool false) ['a', 'l', 's', 'e'] r).cons
  | '-' :: r => (numberStep true r).cons
  | c :: r => if Text.isDigit c then numberStep false (c :: r) else .stop (.broken .stray)

/-- The items of an array and how it ends. -/
abbrev Items := List Value × Ending

/-- The members of an object and how it ends. -/
abbrev Members := List (Content × Value) × Ending

mutual

/-- Reads a value, after spaces. -/
def readValue (s : List Char) : Step Value s :=
  match h : skipSpace s with
  | '[' :: r =>
    have hr : r.length < s.length := length_lt_of_skipSpace h
    let t := readItems r
    ⟨.array t.value.1 t.value.2, t.rest, Nat.le_trans t.le (Nat.le_of_lt hr)⟩
  | '\x7b' :: r =>
    have hr : r.length < s.length := length_lt_of_skipSpace h
    let t := readMembers r
    ⟨t.value, t.rest, Nat.le_trans t.le (Nat.le_of_lt hr)⟩
  | r =>
    let t := atomStep r
    ⟨t.value, t.rest, Nat.le_trans t.le (h ▸ length_skipSpace_le s)⟩
termination_by (s.length, 1)
decreasing_by all_goals (simp only [Prod.lex_def]; omega)

/-- Reads the items of an array, after its opening bracket. -/
def readItems (s : List Char) : Step Items s :=
  match h : skipSpace s with
  | [] => .stop ([], .cut false .truncated)
  | ']' :: r => ⟨([], .closed), r, Nat.le_of_lt (length_lt_of_skipSpace h)⟩
  | c :: r =>
    have hr : (c :: r).length ≤ s.length := length_lt_of_skipSpace h
    match readValue (c :: r) with
    | ⟨v, q, hq⟩ =>
      match readMoreItems q with
      | ⟨(vs, ending), rest, hrest⟩ =>
        ⟨(v :: vs, ending), rest, Nat.le_trans hrest (Nat.le_trans hq hr)⟩
termination_by (s.length, 2)
decreasing_by all_goals (simp only [Prod.lex_def]; omega)

/-- Reads the items of an array after its first item. -/
def readMoreItems (s : List Char) : Step Items s :=
  match h : skipSpace s with
  | [] => .stop ([], .cut false .truncated)
  | ']' :: r => ⟨([], .closed), r, Nat.le_of_lt (length_lt_of_skipSpace h)⟩
  | ',' :: r =>
    have hr : r.length < s.length := length_lt_of_skipSpace h
    match skipSpace r with
    | [] => .stop ([], .cut true .truncated)
    | ']' :: _ => .stop ([], .cut true .malformed)
    | _ :: _ =>
      match readValue r with
      | ⟨v, q, hq⟩ =>
        match readMoreItems q with
        | ⟨(vs, ending), rest, hrest⟩ =>
          ⟨(v :: vs, ending), rest, Nat.le_trans hrest (Nat.le_trans hq (Nat.le_of_lt hr))⟩
  | _ :: _ => .stop ([], .cut false .malformed)
termination_by (s.length, 0)
decreasing_by all_goals (simp only [Prod.lex_def]; omega)

/-- Reads an object, after its opening brace. -/
def readMembers (s : List Char) : Step Value s :=
  match h : skipSpace s with
  | [] => .stop (.object [] (.cut false .truncated))
  | '\x7d' :: r => ⟨.object [] .closed, r, Nat.le_of_lt (length_lt_of_skipSpace h)⟩
  | '"' :: r =>
    have hr : r.length < s.length := length_lt_of_skipSpace h
    let t := readMember r
    ⟨.object t.value.1 t.value.2, t.rest, Nat.le_trans t.le (Nat.le_of_lt hr)⟩
  | c :: r =>
    have hr : (c :: r).length ≤ s.length := length_lt_of_skipSpace h
    let v := readValue (c :: r)
    ⟨.keyless v.value, v.rest, Nat.le_trans v.le hr⟩
termination_by (s.length, 2)
decreasing_by all_goals (simp only [Prod.lex_def]; omega)

/-- Reads a member, after the opening quote of its key, and the members after it. -/
def readMember (s : List Char) : Step Members s :=
  match stringStep s with
  | ⟨.error flaws, _, _⟩ =>
    .stop ([(.error flaws.decoded, .broken (.text flaws))], .cut false flaws.decoded.fault)
  | ⟨.ok key, k, hk⟩ =>
    match h : skipSpace k with
    | [] => .stop ([(key, .broken .missing)], .cut false .truncated)
    | ':' :: r =>
      have hr : r.length < k.length := length_lt_of_skipSpace h
      match readValue r with
      | ⟨v, q, hq⟩ =>
        match readMoreMembers q with
        | ⟨(ms, ending), rest, hrest⟩ => ⟨((key, v) :: ms, ending), rest, by omega⟩
    | _ :: _ => .stop ([(key, .broken .stray)], .cut false .malformed)
termination_by (s.length, 3)
decreasing_by all_goals (simp only [Prod.lex_def]; omega)

/-- Reads the members of an object after its first member. -/
def readMoreMembers (s : List Char) : Step Members s :=
  match h : skipSpace s with
  | [] => .stop ([], .cut false .truncated)
  | '\x7d' :: r => ⟨([], .closed), r, Nat.le_of_lt (length_lt_of_skipSpace h)⟩
  | ',' :: r =>
    have hr : r.length < s.length := length_lt_of_skipSpace h
    match hc : skipSpace r with
    | [] => .stop ([], .cut true .truncated)
    | '"' :: q =>
      have hq : q.length < r.length := length_lt_of_skipSpace hc
      let t := readMember q
      ⟨t.value, t.rest, Nat.le_trans t.le (Nat.le_of_lt (Nat.lt_trans hq hr))⟩
    | _ :: _ => .stop ([], .cut true .malformed)
  | _ :: _ => .stop ([], .cut false .malformed)
termination_by (s.length, 0)
decreasing_by all_goals (simp only [Prod.lex_def]; omega)

end

/-- Reads the value of a whole text; the flag tells whether something other than spaces follows
it. -/
def readText (s : List Char) : Value × Bool :=
  let t := readValue s
  (t.value, skipSpace t.rest ≠ [])

end VulnScan.Json
