import Bindery.Document.Toml.Quotation

/-!
# Tokens of TOML

A TOML text is a sequence of marks, blanks, line ends, comments and terms.  A `Term` is a word or a
text in marks of its own.  What it means depends on where it stands, as a key, a value or neither,
so `tokens` keeps it as it is written.
-/

namespace Bindery.Toml

/-- A word or a quoted text as it is written. -/
inductive Term where
  | word (letters : List Char)
  /-- What stands behind the opening marks, with the closing marks if there are any. -/
  | quoted (q : Quotation) (body : List Char)
  deriving DecidableEq, Repr

/-- The tokens of a TOML text. -/
inductive Token where
  | dot
  | equals
  | comma
  | openList
  | closeList
  | openTable
  | closeTable
  | blank (letters : List Char)
  | lineEnd
  | comment
  | term (t : Term)
  /-- A control character where none may stand. -/
  | stray
  deriving DecidableEq, Repr

/-- The token that a mark is. -/
def mark? : Char → Option Token
  | '.' => some .dot
  | '=' => some .equals
  | ',' => some .comma
  | '[' => some .openList
  | ']' => some .closeList
  | '\x7b' => some .openTable
  | '\x7d' => some .closeTable
  | _ => none

/-- The characters that no word contains. -/
def endsWord (c : Char) : Bool :=
  (mark? c).isSome || isSpace c || c == '#' || c == '\n' || c == '\r'

/-- The characters behind which a line goes no further. -/
def endsLine (c : Char) : Bool := c == '\n' || c == '\r'

/-- The comment behind its mark. -/
def cutComment (text : List Char) : Token × List Char :=
  let line := text.takeWhile fun c => !endsLine c
  (if line.all isInLine then .comment else .stray, text.dropWhile fun c => !endsLine c)

/-- The quoted text behind the first of its opening marks. -/
def cutQuoted (mark : Char) (rest : List Char) : Token × List Char :=
  let tripled := [mark, mark].isPrefixOf rest
  let q : Quotation := ⟨mark, tripled⟩
  let (body, behind) := q.cut (if tripled then rest.drop 2 else rest)
  (.term (.quoted q body), behind)

/-- The token that begins with a character, and what stands behind it. -/
def cutToken (c : Char) (rest : List Char) : Token × List Char :=
  match mark? c with
  | some token => (token, rest)
  | none =>
    if isSpace c then (.blank (c :: rest.takeWhile isSpace), rest.dropWhile isSpace)
    else if c = '#' then cutComment rest
    else if c = '"' ∨ c = '\'' then cutQuoted c rest
    else if c = '\n' then (.lineEnd, rest)
    else if c = '\r' then if rest.head? = some '\n' then (.lineEnd, rest.tail) else (.stray, rest)
    else
      (.term (.word (c :: rest.takeWhile fun d => !endsWord d)), rest.dropWhile fun d => !endsWord d)

theorem length_cutToken_le (c : Char) (rest : List Char) :
    (cutToken c rest).2.length ≤ rest.length := by
  have drop : ∀ p : Char → Bool, (rest.dropWhile p).length ≤ rest.length :=
    fun p => (rest.dropWhile_suffix p).length_le
  unfold cutToken
  split
  · exact Nat.le_refl _
  · split
    · exact drop _
    · split
      · exact drop _
      · split
        · dsimp only [cutQuoted]
          refine Nat.le_trans (Quotation.length_cut_le _ _) ?_
          split <;> simp
        · split
          · exact Nat.le_refl _
          · split
            · split <;> simp
            · exact drop _

/-- The tokens of a text. -/
def tokens (text : List Char) : List Token :=
  match text with
  | [] => []
  | c :: rest => (cutToken c rest).1 :: tokens (cutToken c rest).2
termination_by text.length
decreasing_by
  have := length_cutToken_le c rest
  simp only [List.length_cons]
  omega

end Bindery.Toml
