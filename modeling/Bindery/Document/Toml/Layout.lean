import Bindery.Document.Toml.Token

/-!
# Lines of TOML

A text is a sequence of lines, each with a header or with a dotted key and its value.  `readLines?`
settles what the lines are for the whole text before any term is given its meaning.

A term that is missing, from a dotted key or as a value, counts as an empty word.  An empty word
means nothing, so such a text is refused when its terms are given their meaning, and not before.
Behind a header that breaks off in its key, the rest of the line is not looked at.
-/

namespace Bindery.Toml

/-- A value as it is written. -/
inductive Written where
  | plain (t : Term)
  | list (items : List Written)
  | table (entries : List (List Term × Written))

/-- A value that is missing. -/
def Written.missing : Written := .plain (.word [])

/-- What a line says. -/
inductive Line where
  /-- A header, which may add a table to a list. -/
  | header (path : List Term) (isListed : Bool)
  /-- A dotted key with its value. -/
  | entry (path : List Term) (value : Written)

/-! ### Blanks -/

/-- Whether a token is a blank within a line. -/
def Token.isBlank : Token → Bool
  | .blank _ => true
  | _ => false

/-- Whether a token says nothing: a blank, a line end or a comment. -/
def Token.isVoid : Token → Bool
  | .blank _ | .lineEnd | .comment => true
  | _ => false

/-- The tokens from the next one that is no blank. -/
def skipBlanks (ts : List Token) : List Token := ts.dropWhile Token.isBlank

/-- The tokens from the next one that says something. -/
def skipVoid (ts : List Token) : List Token := ts.dropWhile Token.isVoid

theorem length_skipBlanks_le (ts : List Token) : (skipBlanks ts).length ≤ ts.length :=
  (ts.dropWhile_suffix Token.isBlank).length_le

theorem length_skipVoid_le (ts : List Token) : (skipVoid ts).length ≤ ts.length :=
  (ts.dropWhile_suffix Token.isVoid).length_le

/-! ### Dotted keys and words -/

/-- The terms of a dotted key.  `awaited` tells whether a term has to come next. -/
def readPath (awaited : Bool) : List Token → List Term × List Token
  | .blank _ :: rest => readPath awaited rest
  | .dot :: rest =>
    let (path, behind) := readPath true rest
    (if awaited then .word [] :: path else path, behind)
  | .term t :: rest =>
    if awaited then
      let (path, behind) := readPath false rest
      (t :: path, behind)
    else ([], .term t :: rest)
  | rest => (if awaited then [.word []] else [], rest)

/-- Whether a dotted key has its last term. -/
def isComplete (path : List Term) : Bool := path.getLast? != some (.word [])

theorem length_readPath_le (awaited : Bool) (ts : List Token) :
    (readPath awaited ts).2.length ≤ ts.length := by
  fun_induction readPath awaited ts <;> simp_all <;> omega

/-- The letters of a plain value.  Points belong to it, and so do blanks with a word behind them. -/
def readLetters : List Token → List Char × List Token
  | .term (.word letters) :: rest =>
    let (more, behind) := readLetters rest
    (letters ++ more, behind)
  | .dot :: rest =>
    let (more, behind) := readLetters rest
    ('.' :: more, behind)
  | .blank letters :: .term (.word word) :: rest =>
    let (more, behind) := readLetters rest
    (letters ++ word ++ more, behind)
  | rest => ([], rest)

theorem length_readLetters_le (ts : List Token) : (readLetters ts).2.length ≤ ts.length := by
  fun_induction readLetters ts <;> simp_all <;> omega

/-! ### Values -/

/-- How deeply lists and tables may be nested in a value. -/
def depthLimit : Nat := 80

/-- A result with the tokens behind it, which are fewer than those it was read from. -/
abbrev Read (α : Type) (ts : List Token) := α × { rest : List Token // rest.length < ts.length }

theorem length_of_skipVoid_cons {ts rest : List Token} {t : Token} (h : skipVoid ts = t :: rest) :
    rest.length < ts.length := by
  have := length_skipVoid_le ts
  simp only [h, List.length_cons] at this
  omega

/-- What stands behind the mark that follows a key is shorter than what began with the key. -/
theorem length_mark_lt {ts path rest : List Token} {mark : Token}
    (hpath : path.length ≤ (skipVoid ts).length) (hmark : skipVoid path = mark :: rest) :
    rest.length < ts.length := by
  have h₁ := length_skipVoid_le ts
  have h₂ := length_of_skipVoid_cons hmark
  omega

mutual

/-- The value that tokens begin with.  `room` says how many more levels may be opened. -/
def readValue? (room : Nat) (ts : List Token) : Option (Read Written ts) :=
  match ts with
  | .openList :: rest =>
    if room = 0 then none
    else (readItems? (room - 1) rest).map fun (items, behind) =>
      (.list items, ⟨behind.1, Nat.lt_succ_of_lt behind.2⟩)
  | .openTable :: rest =>
    if room = 0 then none
    else (readMembers? (room - 1) rest).map fun (entries, behind) =>
      (.table entries, ⟨behind.1, Nat.lt_succ_of_lt behind.2⟩)
  | .term (.quoted q body) :: rest => some (.plain (.quoted q body), ⟨rest, Nat.lt_succ_self _⟩)
  | .term (.word letters) :: rest =>
    some (.plain (.word (letters ++ (readLetters rest).1)),
      ⟨(readLetters rest).2, Nat.lt_succ_of_le (length_readLetters_le rest)⟩)
  | .dot :: rest =>
    some (.plain (.word ('.' :: (readLetters rest).1)),
      ⟨(readLetters rest).2, Nat.lt_succ_of_le (length_readLetters_le rest)⟩)
  | _ => none
termination_by (ts.length, 0)

/-- The items of a list up to its closing bracket.  A comma may stand behind the last. -/
def readItems? (room : Nat) (ts : List Token) : Option (Read (List Written) ts) :=
  match hclose : skipVoid ts with
  | .closeList :: rest => some ([], ⟨rest, length_of_skipVoid_cons hclose⟩)
  | _ =>
    match readValue? room (skipVoid ts) with
    | none => none
    | some (item, behind) =>
      have hbehind := Nat.lt_of_lt_of_le behind.2 (length_skipVoid_le ts)
      match hnext : skipVoid behind.1 with
      | .comma :: rest =>
        (readItems? room rest).map fun (items, tail) => (item :: items,
          ⟨tail.1, Nat.lt_trans tail.2 (Nat.lt_trans (length_of_skipVoid_cons hnext) hbehind)⟩)
      | .closeList :: rest =>
        some ([item], ⟨rest, Nat.lt_trans (length_of_skipVoid_cons hnext) hbehind⟩)
      | _ => none
termination_by (ts.length, 1)
decreasing_by
  · rcases Nat.lt_or_eq_of_le (length_skipVoid_le ts) with h | h
    · exact Prod.Lex.left _ _ h
    · rw [h]
      exact Prod.Lex.right _ (by omega)
  · exact Prod.Lex.left _ _ (Nat.lt_trans (length_of_skipVoid_cons hnext) hbehind)

/-- The entries of a table in braces up to its closing brace.  A comma may stand behind the last, whose
value may be missing. -/
def readMembers? (room : Nat) (ts : List Token) : Option (Read (List (List Term × Written)) ts) :=
  match hclose : skipVoid ts with
  | .closeTable :: rest => some ([], ⟨rest, length_of_skipVoid_cons hclose⟩)
  | _ =>
    match hmark : skipVoid (readPath true (skipVoid ts)).2 with
    | .closeTable :: rest =>
      some ([((readPath true (skipVoid ts)).1, .missing)],
        ⟨rest, length_mark_lt (length_readPath_le true (skipVoid ts)) hmark⟩)
    | .equals :: rest =>
      have hrest := length_mark_lt (length_readPath_le true (skipVoid ts)) hmark
      match hvalue : skipVoid rest with
      | .closeTable :: behind =>
        some ([((readPath true (skipVoid ts)).1, .missing)],
          ⟨behind, Nat.lt_trans (length_of_skipVoid_cons hvalue) hrest⟩)
      | _ =>
        match readValue? room (skipVoid rest) with
        | none => none
        | some (value, behind) =>
          have hbehind :=
            Nat.lt_trans behind.2 (Nat.lt_of_le_of_lt (length_skipVoid_le rest) hrest)
          let entry := ((readPath true (skipVoid ts)).1, value)
          match hnext : skipVoid behind.1 with
          | .comma :: rest =>
            (readMembers? room rest).map fun (entries, tail) => (entry :: entries,
              ⟨tail.1, Nat.lt_trans tail.2 (Nat.lt_trans (length_of_skipVoid_cons hnext) hbehind)⟩)
          | .closeTable :: rest =>
            some ([entry], ⟨rest, Nat.lt_trans (length_of_skipVoid_cons hnext) hbehind⟩)
          | _ => none
    | _ => none
termination_by (ts.length, 1)
decreasing_by
  · exact Prod.Lex.left _ _ (Nat.lt_of_le_of_lt (length_skipVoid_le rest) hrest)
  · exact Prod.Lex.left _ _ (Nat.lt_trans (length_of_skipVoid_cons hnext) hbehind)

end

/-! ### Lines -/

/-- Whether a line ends with a token, but for a comment. -/
def Token.endsLine : Token → Bool
  | .lineEnd | .comment => true
  | _ => false

/-- A header without its closing brackets, which is a line only where its key is not complete. -/
def openHeader? (path : List Term) (isListed : Bool) (behind : List Token) :
    Option (Line × List Token) :=
  if isComplete path then none
  else some (.header path isListed, behind.dropWhile fun t => !t.endsLine)

/-- The header behind its opening bracket.  The brackets of a header that adds to a list touch. -/
def readHeader? (ts : List Token) : Option (Line × List Token) :=
  match ts with
  | .openList :: rest =>
    match readPath true rest with
    | (path, .closeList :: .closeList :: behind) => some (.header path true, behind)
    | (_, .closeList :: _) => none
    | (path, behind) => openHeader? path true behind
  | _ =>
    match readPath true ts with
    | (path, .closeList :: behind) => some (.header path false, behind)
    | (path, behind) => openHeader? path false behind

/-- The value of a line, which may be missing. -/
def readLineValue? (ts : List Token) : Option (Written × List Token) :=
  match ts with
  | [] | .lineEnd :: _ | .comment :: _ => some (.missing, ts)
  | _ => (readValue? depthLimit ts).map fun (value, behind) => (value, behind.1)

/-- What the line that tokens begin with says, with the rest of the line. -/
def readLine? (ts : List Token) : Option (Line × List Token) :=
  match ts with
  | .openList :: rest => readHeader? rest
  | _ =>
    match readPath true ts with
    | (path, .equals :: rest) =>
      (readLineValue? (skipBlanks rest)).map fun (value, behind) => (.entry path value, behind)
    | _ => none

theorem length_of_openHeader? {path : List Term} {isListed : Bool} {ts behind : List Token} {l : Line}
    (h : openHeader? path isListed ts = some (l, behind)) : behind.length ≤ ts.length := by
  unfold openHeader? at h
  split at h
  · cases h
  · cases h
    exact (List.dropWhile_suffix _).length_le

theorem length_of_readHeader? {ts behind : List Token} {l : Line}
    (h : readHeader? ts = some (l, behind)) : behind.length ≤ ts.length := by
  unfold readHeader? at h
  split at h
  · next rest =>
    have := length_readPath_le true rest
    split at h
    · next hpath =>
      cases h
      simp only [hpath, List.length_cons] at *
      omega
    · cases h
    · next hpath =>
      have := length_of_openHeader? h
      simp only [hpath, List.length_cons] at *
      omega
  · have := length_readPath_le true ts
    split at h
    · next hpath =>
      cases h
      simp only [hpath, List.length_cons] at *
      omega
    · next hpath =>
      have := length_of_openHeader? h
      simp only [hpath] at *
      omega

theorem length_of_readLineValue? {ts behind : List Token} {value : Written}
    (h : readLineValue? ts = some (value, behind)) : behind.length ≤ ts.length := by
  unfold readLineValue? at h
  split at h
  all_goals first
    | cases h; exact Nat.le_refl _
    | obtain ⟨⟨_, tail⟩, _, heq⟩ := Option.map_eq_some_iff.mp h
      cases heq
      exact Nat.le_of_lt tail.2

theorem length_of_readLine? {ts behind : List Token} {l : Line}
    (h : readLine? ts = some (l, behind)) : behind.length < ts.length := by
  unfold readLine? at h
  split at h
  · have := length_of_readHeader? h
    simp only [List.length_cons]
    omega
  · have := length_readPath_le true ts
    split at h
    · next tail hpath =>
      obtain ⟨⟨_, _⟩, hvalue, heq⟩ := Option.map_eq_some_iff.mp h
      cases heq
      have := length_of_readLineValue? hvalue
      have := length_skipBlanks_le tail
      simp only [hpath, List.length_cons] at *
      omega
    · cases h

/-- Whether a line ends here, but for a comment. -/
def isLineEnd (ts : List Token) : Bool := ts.head?.all Token.endsLine

/-- The lines of a text that has no stray characters. -/
def readLines? (ts : List Token) : Option (List Line) :=
  match _skip : skipVoid ts with
  | [] => some []
  | start =>
    match _line : readLine? start with
    | none => none
    | some (l, behind) =>
      if isLineEnd (skipBlanks behind) then (readLines? (skipBlanks behind)).map (l :: ·) else none
termination_by ts.length
decreasing_by
  have := length_skipVoid_le ts
  have := length_of_readLine? _line
  have := length_skipBlanks_le behind
  simp_all
  omega

/-- The lines of a text. -/
def lines? (text : List Char) : Option (List Line) :=
  if (tokens text).contains .stray then none else readLines? (tokens text)

end Bindery.Toml
