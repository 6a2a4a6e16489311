import Bindery.Text.Digits
import Bindery.Text.Split

/-!
# Texts in TOML

A text stands in quotation marks, where a backslash introduces escapes, or in apostrophes, where
every character stands for itself.  Tripled marks enclose several lines.  The four ways are the
`Quotation`s.

Where a text ends is decided before its escapes are looked at: `Quotation.cut` takes the text with
its closing marks off, and `Quotation.content?` says what it stands for.  So a text with a bad
escape, or one without closing marks, still has a place where it ends.
-/

namespace Bindery.Toml

open Text

/-- The blanks within a line. -/
def isSpace (c : Char) : Bool := c == ' ' || c == '\t'

/-- The characters that may stand inside a line; of the controls only the tab may. -/
def isInLine (c : Char) : Bool := c == '\t' || (0x20 ≤ c.toNat && c.toNat ≠ 0x7F)

/-- Whether a character may stand inside several lines, `rest` following it. -/
def isInLines (c : Char) (rest : List Char) : Bool :=
  isInLine c || c == '\n' || (c == '\r' && rest.head? == some '\n')

/-- The text behind the end of a line, if the line ends here. -/
def lineEnd? : List Char → Option (List Char)
  | '\n' :: rest => some rest
  | '\r' :: '\n' :: rest => some rest
  | _ => none

/-- The text behind a line end, or the text itself. -/
def dropLineEnd (text : List Char) : List Char := (lineEnd? text).getD text

/-- The text from the next character that is neither a blank nor part of a line end. -/
def skipLines : List Char → List Char
  | [] => []
  | '\r' :: '\n' :: rest => skipLines rest
  | c :: rest => if isSpace c || c == '\n' then skipLines rest else c :: rest

theorem length_skipLines_le (text : List Char) : (skipLines text).length ≤ text.length := by
  fun_induction skipLines text with
  | case1 => exact Nat.le_refl _
  | case2 rest ih => simp only [List.length_cons]; omega
  | case3 c rest _ _ ih => simp only [List.length_cons]; omega
  | case4 => exact Nat.le_refl _

/-! ### Where a text ends -/

/-- The marks around a text. -/
structure Quotation where
  mark : Char
  /-- The mark is written three times, and the text may have several lines. -/
  tripled : Bool
  deriving DecidableEq, Repr

namespace Quotation

/-- The marks that open or close a text. -/
def marks (q : Quotation) : List Char := if q.tripled then [q.mark, q.mark, q.mark] else [q.mark]

/-- Whether a backslash introduces an escape. -/
def escapes (q : Quotation) : Bool := q.mark == '"'

/-- How many characters belong to the closing marks at the start of a text: behind tripled marks, up to two
more are still part of the text. -/
def closingLength (q : Quotation) (text : List Char) : Nat :=
  if q.tripled then 3 + (((text.drop 3).take 2).takeWhile (· == q.mark)).length else 1

/-- A text with its closing marks, and what stands behind it.  A text that is not closed goes on to the end
of its line, or of everything if its marks are tripled. -/
def cut (q : Quotation) : List Char → List Char × List Char
  | [] => ([], [])
  | '\\' :: c :: rest =>
    if q.escapes && (c == '\\' || c == '"') then
      let (body, behind) := cut q rest
      ('\\' :: c :: body, behind)
    else
      let (body, behind) := cut q (c :: rest)
      ('\\' :: body, behind)
  | c :: rest =>
    if q.marks.isPrefixOf (c :: rest) then
      (c :: rest).splitAt (q.closingLength (c :: rest))
    else if c == '\n' && !q.tripled then ([], c :: rest)
    else
      let (body, behind) := cut q rest
      (c :: body, behind)

/-- A text and what stands behind it make up the whole. -/
theorem cut_append (q : Quotation) (text : List Char) : (q.cut text).1 ++ (q.cut text).2 = text := by
  fun_induction cut q text <;> simp_all

theorem length_cut_le (q : Quotation) (text : List Char) : (q.cut text).2.length ≤ text.length := by
  have := congrArg List.length (q.cut_append text)
  simp only [List.length_append] at this
  omega

end Quotation

/-! ### What a text says -/

/-- The character whose number stands in the first `count` characters, in hexadecimal digits. -/
def readCode? (count : Nat) (text : List Char) : Option (Char × List Char) :=
  let digits := text.take count
  let code := digitsValue 16 digits
  if digits.length = count ∧ digits.all (fun c => (hexDigit? c).isSome) ∧ code.isValidChar then
    some (Char.ofNat code, text.drop count)
  else none

/-- The character that an escape stands for, its backslash having been read. -/
def readEscape? : List Char → Option (Char × List Char)
  | 'b' :: rest => some ('\x08', rest)
  | 't' :: rest => some ('\t', rest)
  | 'n' :: rest => some ('\n', rest)
  | 'f' :: rest => some ('\x0c', rest)
  | 'r' :: rest => some ('\r', rest)
  | 'e' :: rest => some ('\x1b', rest)
  | '"' :: rest => some ('"', rest)
  | '\\' :: rest => some ('\\', rest)
  | 'x' :: rest => readCode? 2 rest
  | 'u' :: rest => readCode? 4 rest
  | 'U' :: rest => readCode? 8 rest
  | _ => none

theorem length_of_readCode? {count : Nat} {text rest : List Char} {c : Char}
    (h : readCode? count text = some (c, rest)) : rest.length ≤ text.length := by
  simp only [readCode?, Option.ite_none_right_eq_some, Option.some.injEq, Prod.mk.injEq] at h
  obtain ⟨_, _, rfl⟩ := h
  simp

theorem length_of_readEscape? {text rest : List Char} {c : Char}
    (h : readEscape? text = some (c, rest)) : rest.length < text.length := by
  unfold readEscape? at h
  split at h
  all_goals first
    | cases h; simp
    | have := length_of_readCode? h; simp only [List.length_cons]; omega
    | cases h

namespace Quotation

/-- Characters that stand for themselves, within the lines that a text may have. -/
def plain? (q : Quotation) : List Char → Option (List Char)
  | [] => some []
  | c :: rest =>
    if isInLine c || (q.tripled && isInLines c rest) then (plain? q rest).map (c :: ·) else none

/-- Characters with escapes among them.  In a text of several lines, a backslash at the end of a line
removes all blanks and line ends up to the next character. -/
def unescape? (q : Quotation) (text : List Char) : Option (List Char) :=
  match text with
  | [] => some []
  | '\\' :: rest =>
    if q.tripled && (lineEnd? (rest.dropWhile isSpace)).isSome then unescape? q (skipLines rest)
    else
      match _escape : readEscape? rest with
      | none => none
      | some (c, behind) => (unescape? q behind).map (c :: ·)
  | c :: rest =>
    if isInLine c || (q.tripled && isInLines c rest) then (unescape? q rest).map (c :: ·) else none
termination_by text.length
decreasing_by
  · have := length_skipLines_le rest
    simp only [List.length_cons]
    omega
  · have := length_of_readEscape? _escape
    simp only [List.length_cons]
    omega
  · simp

/-- What a text says, given with its closing marks.  A line end directly behind tripled marks does not
count. -/
def content? (q : Quotation) (body : List Char) : Option (List Char) := do
  let inner ← dropSuffix? q.marks (if q.tripled then dropLineEnd body else body)
  if q.escapes then q.unescape? inner else q.plain? inner

end Quotation

end Bindery.Toml
