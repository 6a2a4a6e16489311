import Bindery.Document.Json.Number

/-!
# Tokens of JSON

A JSON text is a sequence of brackets, separators, texts and plain values with blanks between them.
`tokens` reads them up to the first place where there is none to be read, and a stray token stands
for all that follows.

An escape may give half of a surrogate pair, so a text is read as code units first (`readUnits?`),
which are joined to characters afterwards (`joinUnits?`).  A text whose halves do not match is well
written and can be passed over, but it stands for no characters.
-/

namespace Bindery.Json

open Text

/-- The tokens of a JSON text. -/
inductive Token where
  | openList
  | closeList
  | openRecord
  | closeRecord
  | comma
  | colon
  /-- A text, without its characters where they cannot be made out. -/
  | text (content : Option String)
  /-- A value that is neither a text nor in brackets. -/
  | value (document : Document)
  /-- A place where no token can be read. -/
  | stray
  deriving Repr

/-! ### Texts -/

/-- The code unit that four hexadecimal digits give. -/
def hexUnit? (a b c d : Char) : Option Nat := do
  return ((← hexDigit? a) * 16 + (← hexDigit? b)) * 256 + ((← hexDigit? c) * 16 + (← hexDigit? d))

/-- The character that a letter behind a backslash stands for. -/
def escaped? : Char → Option Char
  | '"' => some '"'
  | '\\' => some '\\'
  | '/' => some '/'
  | 'b' => some '\x08'
  | 'f' => some '\x0c'
  | 'n' => some '\n'
  | 'r' => some '\r'
  | 't' => some '\t'
  | _ => none

/-- The code units up to the closing quotation mark, with the text behind it.  Control characters have
to be escaped. -/
def readUnits? : List Char → Option (List Nat × List Char)
  | [] => none
  | '"' :: rest => some ([], rest)
  | '\\' :: 'u' :: a :: b :: c :: d :: rest => do
    let unit ← hexUnit? a b c d
    let (units, behind) ← readUnits? rest
    return (unit :: units, behind)
  | '\\' :: letter :: rest => do
    let meant ← escaped? letter
    let (units, behind) ← readUnits? rest
    return (meant.toNat :: units, behind)
  | c :: rest =>
    if c.toNat < 0x20 || c == '\\' then none
    else do
      let (units, behind) ← readUnits? rest
      return (c.toNat :: units, behind)

/-- The first half of a surrogate pair. -/
def isHighSurrogate (unit : Nat) : Bool := 0xD800 ≤ unit && unit < 0xDC00

/-- The second half of a surrogate pair. -/
def isLowSurrogate (unit : Nat) : Bool := 0xDC00 ≤ unit && unit < 0xE000

/-- The characters that code units stand for, if all surrogates are paired. -/
def joinUnits? : List Nat → Option (List Char)
  | [] => some []
  | [unit] =>
    if isHighSurrogate unit || isLowSurrogate unit then none else some [Char.ofNat unit]
  | unit :: next :: units =>
    if isHighSurrogate unit then
      if isLowSurrogate next then
        (joinUnits? units).map
          (Char.ofNat (0x10000 + (unit - 0xD800) * 0x400 + (next - 0xDC00)) :: ·)
      else none
    else if isLowSurrogate unit then none
    else (joinUnits? (next :: units)).map (Char.ofNat unit :: ·)

theorem length_of_readUnits? {text rest : List Char} {units : List Nat}
    (h : readUnits? text = some (units, rest)) : rest.length < text.length := by
  fun_induction readUnits? text generalizing units with
  | case1 => cases h
  | case2 => cases h; simp
  | case3 a b c d tail ih =>
    simp only [Option.bind_eq_bind, Option.bind_eq_some_iff, Option.pure_def, Option.some.injEq,
      Prod.mk.injEq, Prod.exists] at h
    obtain ⟨_, _, _, _, hrest, _, rfl⟩ := h
    have := ih hrest
    simp only [List.length_cons]
    omega
  | case4 letter tail _ ih =>
    simp only [Option.bind_eq_bind, Option.bind_eq_some_iff, Option.pure_def, Option.some.injEq,
      Prod.mk.injEq, Prod.exists] at h
    obtain ⟨_, _, _, _, hrest, _, rfl⟩ := h
    have := ih hrest
    simp only [List.length_cons]
    omega
  | case5 => cases h
  | case6 c tail _ _ _ _ ih =>
    simp only [Option.bind_eq_bind, Option.bind_eq_some_iff, Option.pure_def, Option.some.injEq,
      Prod.mk.injEq, Prod.exists] at h
    obtain ⟨_, _, hrest, _, rfl⟩ := h
    have := ih hrest
    simp only [List.length_cons]
    omega

/-! ### Tokens -/

/-- What may stand between tokens. -/
def isSpace (c : Char) : Bool := c == ' ' || c == '\n' || c == '\t' || c == '\r'

/-- The token that a mark is. -/
def mark? : Char → Option Token
  | '[' => some .openList
  | ']' => some .closeList
  | '\x7b' => some .openRecord
  | '\x7d' => some .closeRecord
  | ',' => some .comma
  | ':' => some .colon
  | _ => none

/-- The values that have names. -/
def namedValues : List (List Char × Document) :=
  [("null".toList, .null), ("true".toList, .bool true), ("false".toList, .bool false)]

/-- The named value at the start of a text, with the text behind it. -/
def readNamed? (text : List Char) : Option (Document × List Char) :=
  (namedValues.find? fun entry => entry.1.isPrefixOf text).map fun (word, value) =>
    (value, text.drop word.length)

/-- The first token of a text that starts with no blank, with the text behind it. -/
def readToken? : List Char → Option (Token × List Char)
  | [] => none
  | c :: rest =>
    match mark? c with
    | some token => some (token, rest)
    | none =>
      if c = '"' then
        (readUnits? rest).map fun (units, behind) =>
          (.text ((joinUnits? units).map String.ofList), behind)
      else if c.isDigit || c = '-' then
        (Numeral.read? (c :: rest)).map fun (n, behind) => (.value n.document, behind)
      else (readNamed? (c :: rest)).map fun (value, behind) => (.value value, behind)

theorem length_of_readNamed? {text rest : List Char} {value : Document}
    (h : readNamed? text = some (value, rest)) : rest.length < text.length := by
  obtain ⟨⟨word, named⟩, hfind, heq⟩ := Option.map_eq_some_iff.mp h
  cases heq
  have begins := List.find?_some hfind
  have fits := (List.isPrefixOf_iff_prefix.mp begins).length_le
  have long : 0 < word.length := by
    have := List.mem_of_find?_eq_some hfind
    simp only [namedValues, List.mem_cons, Prod.mk.injEq, List.not_mem_nil, or_false] at this
    rcases this with ⟨rfl, _⟩ | ⟨rfl, _⟩ | ⟨rfl, _⟩ <;> decide
  simp only [List.length_drop] at *
  omega

theorem length_of_readToken? {text rest : List Char} {token : Token}
    (h : readToken? text = some (token, rest)) : rest.length < text.length := by
  unfold readToken? at h
  split at h
  · cases h
  · next c tail =>
    split at h
    · cases h
      simp
    · split at h
      · obtain ⟨⟨units, behind⟩, hread, heq⟩ := Option.map_eq_some_iff.mp h
        cases heq
        have := length_of_readUnits? hread
        simp only [List.length_cons]
        omega
      · split at h
        · obtain ⟨⟨n, behind⟩, hread, heq⟩ := Option.map_eq_some_iff.mp h
          cases heq
          exact Numeral.length_of_read? hread
        · obtain ⟨⟨value, behind⟩, hread, heq⟩ := Option.map_eq_some_iff.mp h
          cases heq
          exact length_of_readNamed? hread

/-- The tokens of a text.  Where none can be read, a stray token ends them. -/
def tokens (text : List Char) : List Token :=
  match text with
  | [] => []
  | c :: rest =>
    if isSpace c then tokens rest
    else
      match _read : readToken? (c :: rest) with
      | none => [.stray]
      | some (token, behind) => token :: tokens behind
termination_by text.length
decreasing_by
  · simp
  · exact length_of_readToken? _read

end Bindery.Json
