import Bindery.Proofs.Java.Rendering
import Bindery.Text.Digits

/-!
# String literals are lossless

A literal is read in two steps.  First the Unicode escapes of the whole text are replaced, wherever
they stand (`replaceEscapes`), and only then the literal is read from its opening mark to the first
mark that no backslash takes (`readLiteral`).  So a text could break out of its literal in two ways:
by a mark that is not taken, and by an escape that is only found in the first step.

Neither happens, because a literal has its backslashes in pairs of a backslash and the character
that it takes.  Behind every pair an even number of backslashes has been read, and a pair never
consists of a backslash and the letter that starts a Unicode escape.  Both steps go through a
literal pair by pair, so what follows it does not matter; `replaceEscapes_literal` and
`readQuoted_literal` are the two inductions.
-/

namespace Bindery.Java

open Text

/-! ### Unicode escapes -/

/-- How much of a Unicode escape has been read. -/
inductive EscapeStage where
  /-- Nothing, and an even number of backslashes stands right before. -/
  | outside
  /-- A backslash behind an even number of backslashes. -/
  | backslash
  /-- The letter behind the backslash, which may stand several times. -/
  | letter
  /-- Some of the four digits, and the number that they make. -/
  | digits (count value : Nat)
  deriving DecidableEq, Repr

/-- The character with a code, if there is one. -/
def character? (code : Nat) : Option Char :=
  if h : code.isValidChar then some (Char.ofNatAux code h) else none

/-- **A text with its Unicode escapes replaced.**  A backslash behind an odd number of backslashes starts
none.  Escapes that break off or that give no character are refused. -/
def replaceEscapes : EscapeStage → List Char → Option (List Char)
  | .outside, [] => some []
  | .backslash, [] => some ['\\']
  | _, [] => none
  | .outside, c :: rest =>
    if c = '\\' then replaceEscapes .backslash rest
    else (replaceEscapes .outside rest).map (c :: ·)
  | .backslash, c :: rest =>
    if c = 'u' then replaceEscapes .letter rest
    else (replaceEscapes .outside rest).map ('\\' :: c :: ·)
  | .letter, c :: rest =>
    if c = 'u' then replaceEscapes .letter rest
    else (hexDigit? c).bind fun digit => replaceEscapes (.digits 1 digit) rest
  | .digits count value, c :: rest =>
    (hexDigit? c).bind fun digit =>
      if count < 3 then replaceEscapes (.digits (count + 1) (16 * value + digit)) rest
      else (character? (16 * value + digit)).bind fun replaced =>
        (replaceEscapes .outside rest).map (replaced :: ·)

/-! ### Literals -/

/-- The character that a letter or mark behind a backslash stands for in a literal. -/
def taken? : Char → Option Char
  | 'n' => some '\n'
  | 'r' => some '\r'
  | 't' => some '\t'
  | '"' => some '"'
  | '\\' => some '\\'
  | _ => none

/-- The characters of a literal up to the first mark that no backslash takes, with the text behind that.
A literal does not go beyond its line. -/
def readCharacters : List Char → Option (List Char × List Char)
  | [] => none
  | '"' :: rest => some ([], rest)
  | ['\\'] => none
  | '\\' :: c :: rest =>
    (taken? c).bind fun meant => (readCharacters rest).map fun read => (meant :: read.1, read.2)
  | c :: rest =>
    if c = '\n' ∨ c = '\r' then none
    else (readCharacters rest).map fun read => (c :: read.1, read.2)

/-- The literal that a text without Unicode escapes begins with. -/
def readQuoted : List Char → Option (List Char × List Char)
  | '"' :: rest => readCharacters rest
  | _ => none

/-- **The value of the literal that a text begins with**, and the text behind it. -/
def readLiteral (text : List Char) : Option (List Char × List Char) :=
  (replaceEscapes .outside text).bind readQuoted

/-- **A text that reads as a literal of a value**: on one line, as a whole, and in front of any text
whose own Unicode escapes can be replaced. -/
structure IsLiteralOf (value text : String) : Prop where
  newline : '\n' ∉ text.toList
  carriageReturn : '\r' ∉ text.toList
  whole : readLiteral text.toList = some (value.toList, [])
  followed : ∀ rest replaced, replaceEscapes .outside rest = some replaced →
    readLiteral (text.toList ++ rest) = some (value.toList, replaced)

/-! ### What is written is read -/

/-- An escaped character is a pair of a backslash and what it takes, or stands for itself. -/
theorem escape_cases (c : Char) :
    (∃ d, escape c = ['\\', d] ∧ d ≠ 'u' ∧ d ≠ '\n' ∧ d ≠ '\r' ∧ taken? d = some c) ∨
      (escape c = [c] ∧ c ≠ '\\' ∧ c ≠ '"' ∧ c ≠ '\n' ∧ c ≠ '\r') := by
  unfold escape
  split
  case h_6 hmark hbackslash hnewline hreturn _ =>
    exact .inr ⟨rfl, hbackslash, hmark, hnewline, hreturn⟩
  all_goals exact .inl ⟨_, rfl, by decide, by decide, by decide, rfl⟩

/-- **Escaped characters stay on their line.** -/
theorem not_mem_literal (text : String) :
    '\n' ∉ (literal text).toList ∧ '\r' ∉ (literal text).toList := by
  have hescape (c : Char) : '\n' ∉ escape c ∧ '\r' ∉ escape c := by
    rcases escape_cases c with ⟨d, hd, -, hnewline, hreturn, -⟩ | ⟨hc, -, -, hnewline, hreturn⟩
    · simp [hd, Ne.symm hnewline, Ne.symm hreturn]
    · simp [hc, Ne.symm hnewline, Ne.symm hreturn]
  simp [literal, literalChars, hescape]

/-- Replacing goes on behind an escaped character as before it. -/
theorem replaceEscapes_escape (c : Char) (rest : List Char) :
    replaceEscapes .outside (escape c ++ rest) =
      (replaceEscapes .outside rest).map (escape c ++ ·) := by
  rcases escape_cases c with ⟨d, hd, hu, -⟩ | ⟨hc, hbackslash, -⟩
  · rw [hd, List.cons_append, replaceEscapes, if_pos rfl, List.singleton_append, replaceEscapes,
      if_neg hu]
    rfl
  · rw [hc, List.singleton_append, replaceEscapes, if_neg hbackslash]
    rfl

theorem replaceEscapes_flatMap_escape (text rest : List Char) :
    replaceEscapes .outside (text.flatMap escape ++ rest) =
      (replaceEscapes .outside rest).map (text.flatMap escape ++ ·) := by
  induction text with
  | nil => simp
  | cons c text ih =>
      rw [List.flatMap_cons, List.append_assoc, replaceEscapes_escape, ih, Option.map_map]
      simp [Function.comp_def]

/-- **No Unicode escape starts in a literal.** -/
theorem replaceEscapes_literal (text : String) (rest : List Char) :
    replaceEscapes .outside ((literal text).toList ++ rest) =
      (replaceEscapes .outside rest).map ((literal text).toList ++ ·) := by
  have hmark (rest : List Char) : replaceEscapes .outside ('"' :: rest) =
      (replaceEscapes .outside rest).map ('"' :: ·) := by
    rw [replaceEscapes, if_neg (by decide)]
  simp [literal, literalChars, hmark, replaceEscapes_flatMap_escape, Function.comp_def]

/-- An escaped character is read as the character. -/
theorem readCharacters_escape (c : Char) (rest : List Char) :
    readCharacters (escape c ++ rest) =
      (readCharacters rest).map fun read => (c :: read.1, read.2) := by
  rcases escape_cases c with ⟨d, hd, -, -, -, htaken⟩ | ⟨hc, hbackslash, hmark, hnewline, hreturn⟩
  · rw [hd, List.cons_append, List.singleton_append, readCharacters, htaken, Option.bind_some]
  · rw [hc, List.singleton_append, readCharacters, if_neg (by simp [hnewline, hreturn])]
    · simpa using hmark
    · simp [hbackslash]
    · simp [hbackslash]

/-- **A literal is read up to its end**, and yields what was written. -/
theorem readQuoted_literal (text : String) (rest : List Char) :
    readQuoted ((literal text).toList ++ rest) = some (text.toList, rest) := by
  have hcharacters (text : List Char) :
      readCharacters (text.flatMap escape ++ '"' :: rest) = some (text, rest) := by
    induction text with
    | nil => rfl
    | cons c text ih =>
        rw [List.flatMap_cons, List.append_assoc, readCharacters_escape, ih]
        rfl
  simpa [literal, literalChars, readQuoted] using hcharacters text.toList

/-- **A literal reads as its value**, in any surroundings. -/
theorem isLiteralOf_literal (value : String) : IsLiteralOf value (literal value) := by
  have hfollowed (rest replaced : List Char) (h : replaceEscapes .outside rest = some replaced) :
      readLiteral ((literal value).toList ++ rest) = some (value.toList, replaced) := by
    rw [readLiteral, replaceEscapes_literal, h, Option.map_some, Option.bind_some]
    exact readQuoted_literal value replaced
  obtain ⟨hnewline, hreturn⟩ := not_mem_literal value
  exact ⟨hnewline, hreturn, by simpa using hfollowed [] [] rfl, hfollowed⟩

/-- Not every text between marks is a literal of what stands there: this one ends at a mark that only
the first step finds. -/
example : readLiteral "\"end\\u0022 + x\"".toList = some ("end".toList, " + x\"".toList) := by
  decide

/-! ### Texts at the margin of a file -/

/-- At the margin of a file, outside of statements, a text is written as it is. -/
theorem write_at_margin (fresh : Bool) (text : List Char) :
    ∃ behind, (⟨0, none, fresh⟩ : Margin).write text = (⟨0, none, behind⟩, text.map .char) := by
  induction text generalizing fresh with
  | nil => exact ⟨fresh, rfl⟩
  | cons c text ih =>
      by_cases hc : c = '\n'
      · obtain ⟨behind, h⟩ := ih true
        exact ⟨behind, by simp only [Margin.write, if_pos hc, Margin.newline, h, List.map_cons]⟩
      · obtain ⟨behind, h⟩ := ih false
        have hnone : (if fresh then (indentation 0).map Glyph.char else []) = [] := by
          rw [show indentation 0 = [] from rfl, List.map_nil, ite_self]
        exact ⟨behind, by simp only [Margin.write, if_neg hc, h, hnone, List.map_cons]; rfl⟩

/-- At the margin of a file a text that ends its line leads back to the margin. -/
theorem glyphs_lines_at_margin (s : Scope) (text : String) (rest : List Mark) :
    glyphs s ⟨0, none, true⟩ (.text (text ++ "\n") :: rest) =
      chars (text ++ "\n") ++ glyphs s ⟨0, none, true⟩ rest := by
  obtain ⟨behind, hwritten⟩ := write_at_margin true text.toList
  have hcut := glyphs_text_append s ⟨0, none, true⟩ [] text "\n" rest
  refine hcut.trans ?_
  simp only [List.nil_append, glyphs, hwritten, chars_append, List.append_assoc]
  rfl

/-- A word, a name and the mark behind them make whole lines, also where the name has ends of lines
in it. -/
theorem writes_clause (s : Scope) (word name : String) :
    Writes s 0 [.text word, .text name, .text ";\n"] (word ++ name ++ ";" ++ "\n") := by
  refine Keeps.writes (fun rest => ?_) (.inr ⟨_, rfl⟩)
  have hmark : word ++ name ++ ";" ++ "\n" = word ++ name ++ ";\n" := by simp [String.append_assoc]
  have hname := glyphs_text_append s ⟨0, none, true⟩ [] word name (.text ";\n" :: rest)
  have hend := glyphs_text_append s ⟨0, none, true⟩ [] (word ++ name) ";\n" rest
  -- the three texts are one, which is written as it is
  rw [← glyphs_lines_at_margin, hmark]
  exact hname.symm.trans hend.symm

/-- **The package and the imports are whole lines**, whatever the names are. -/
theorem exists_writes_headMarks (s : Scope) (f : SourceFile) :
    ∃ before, Writes s 0 f.headMarks before := by
  have hpackage : ∃ before, Writes s 0
      (if f.package.isEmpty then []
        else [.text "package ", .text f.package, .text ";\n", .text "\n"]) before := by
    split
    next => exact ⟨_, .nil⟩
    next => exact ⟨_, (writes_clause s "package " f.package).append .blank⟩
  have himports (names : List String) : ∃ before, Writes s 0
      (names.flatMap fun name => [Mark.text "import ", .text name, .text ";\n"]) before := by
    induction names with
    | nil => exact ⟨_, .nil⟩
    | cons name names ih =>
        obtain ⟨before, h⟩ := ih
        exact ⟨_, (writes_clause s "import " name).append h⟩
  have hend : ∃ before, Writes s 0 (if f.imports.isEmpty then [] else [.text "\n"]) before := by
    split
    next => exact ⟨_, .nil⟩
    next => exact ⟨_, .blank⟩
  obtain ⟨_, hpackage⟩ := hpackage
  obtain ⟨_, himports⟩ := himports f.importNames
  obtain ⟨_, hend⟩ := hend
  exact ⟨_, (hpackage.append himports).append hend⟩

/-! ### The annotation of generated code -/

/-- The annotation of generated code goes by its simple name or by its qualified one. -/
theorem Scope.nameOf_generatedType (s : Scope) :
    s.nameOf generatedType = "Generated" ∨
      s.nameOf generatedType = "javax.annotation.Generated" := by
  have hsimple : Text.joinNames '.' generatedType.simpleNames = "Generated" := by decide
  have hqualified : generatedType.canonicalName = "javax.annotation.Generated" := by decide
  have hchain : generatedType.chain = [generatedType] := by simp [ClassName.chain, generatedType]
  rw [Scope.nameOf]
  cases hstanding : s.standing generatedType with
  | visible around =>
      -- no class is around it, so it is visible itself
      have hfound : generatedType.chain.find? s.isVisible = some around := by
        rw [Scope.standing] at hstanding
        split at hstanding
        next other hfound =>
          cases hstanding
          exact hfound
        next =>
          split at hstanding
          · cases hstanding
          · split at hstanding <;> cases hstanding
      have hself := List.mem_of_find?_eq_some hfound
      rw [hchain, List.mem_singleton] at hself
      subst hself
      exact .inl hsimple
  | neighbour => exact .inl hsimple
  | shadowed => exact .inr hqualified
  | foreign => exact .inr hqualified

/-- The annotation of generated code has a line for each of its literals. -/
theorem annotationLines_generated (name processor comments : String) :
    Layout.annotationLines 0 name [("value", processor), ("comments", comments)] =
      "@" ++ name ++ "(\n    value = " ++ processor ++ ",\n    comments = " ++ comments ++ "\n)\n" := by
  have hmany : Layout.AreMany [("value", processor), ("comments", comments)] := by
    simp [Layout.AreMany]
  have hmargin : spaces 0 = "" := rfl
  have hopening (rest : String) : "(\n" ++ (spaces 2 ++ ("value = " ++ rest)) =
      "(\n    value = " ++ rest := by
    rw [← String.append_assoc, ← String.append_assoc]
    rfl
  have hbetween (rest : String) : ",\n" ++ (spaces 2 ++ ("comments = " ++ rest)) =
      ",\n    comments = " ++ rest := by
    rw [← String.append_assoc, ← String.append_assoc]
    rfl
  rw [Layout.annotationLines_of_areMany _ _ hmany]
  simp [line, Layout.memberText, hmargin, hopening, hbetween, String.append_assoc]

/-- **The annotation of generated code in a file** stands behind the package and the imports. -/
theorem exists_text_eq_of_annotated {settings : GeneratorSettings} {p : Plan} {f : SourceFile}
    (h : sourceFile settings p = .ok f) (hannotated : settings.annotated = true) :
    ∃ before after, f.text = before ++
      Layout.annotationLines 0 (f.scope.nameOf generatedType)
        [("value", literal settings.processor), ("comments", literal settings.comments)] ++
      after := by
  obtain ⟨m, hfile⟩ := exists_isFileOf h
  obtain ⟨before, hhead⟩ := exists_writes_headMarks f.scope f
  have huse := writes_generatedUse (s := f.scope) settings
  rw [if_pos hannotated] at huse
  obtain ⟨behind, hbody⟩ : ∃ behind,
      f.bodyMarks = AnnotationUse.lineMarks (generatedUse settings) ++ behind := by
    rw [SourceFile.bodyMarks, hfile.annotations, moduleUses]
    simp only [AnnotationUse.lineMarks, List.flatMap_append, List.append_assoc]
    exact ⟨_, rfl⟩
  have hwritten := (hhead.append huse) behind
  rw [List.append_assoc, ← hbody, glyphs_fresh_file f (begins_marks f)] at hwritten
  rw [SourceFile.text, hwritten, String.ofList_append, String.ofList_toList]
  exact ⟨before, _, rfl⟩

/-- **Literals are lossless.**  A literal in a fragment is written inside any line as a text that reads
as its value and as nothing else.  The annotation of a generated file that tells where the file comes
from has two such literals, for any settings. -/
theorem literals_are_lossless :
    (∀ (value : String) (s : Scope), Inline s (Fragment.empty.literal value).marks (literal value) ∧
      IsLiteralOf value (literal value)) ∧
    ∀ (settings : GeneratorSettings) (b : Binding) (artifact : Artifact),
      renderModule settings b = .ok artifact → settings.annotated = true →
      ∃ name before after processor comments,
        (name = "Generated" ∨ name = "javax.annotation.Generated") ∧
        IsLiteralOf settings.processor processor ∧ IsLiteralOf settings.comments comments ∧
        artifact.contents = before ++
          ("@" ++ name ++ "(\n    value = " ++ processor ++ ",\n    comments = " ++ comments ++
            "\n)\n") ++ after := by
  refine ⟨fun value s => ⟨?_, isLiteralOf_literal value⟩, fun settings b artifact h hannotated => ?_⟩
  · rw [Fragment.literal, ← Fragment.ofText]
    exact inline_ofText (isFlat_literal value)
  · obtain ⟨f, hf, rfl⟩ := renderModule_eq_ok_iff.mp h
    obtain ⟨before, after, htext⟩ := exists_text_eq_of_annotated hf hannotated
    refine ⟨_, before, after, _, _, f.scope.nameOf_generatedType,
      isLiteralOf_literal settings.processor, isLiteralOf_literal settings.comments, ?_⟩
    rw [SourceFile.artifact, htext, annotationLines_generated]

/-- A module that provides the result of a function, with a qualifier to repeat and one argument. -/
def clockBinding : Binding where
  source := .call ⟨"app", "Clocks", []⟩ "utc" "Clocks.INSTANCE"
  exposed := .plain ⟨"java.time", "Clock", []⟩
  strategy := .provides
  target := some ⟨"dagger.hilt.components", "SingletonComponent", []⟩
  qualifier := some ⟨⟨"javax.inject", "Named", []⟩, [⟨"value", "\"utc\""⟩], []⟩
  arguments := [⟨"zone", .plain ⟨"java.time", "ZoneId", []⟩, none⟩]
  sound := by decide

/-- Settings whose texts look like the end of a literal, once only behind a Unicode escape. -/
def hostileSettings : GeneratorSettings where
  processor := "end\", value = \"\\u0022 \\\\u0022"
  comments := "two\r\nlines\\"

theorem literals_are_lossless_hostile : ∃ artifact,
    renderModule hostileSettings clockBinding = .ok artifact ∧ hostileSettings.annotated = true ∧
    ∃ name before after processor comments,
      (name = "Generated" ∨ name = "javax.annotation.Generated") ∧
      IsLiteralOf hostileSettings.processor processor ∧
      IsLiteralOf hostileSettings.comments comments ∧
      artifact.contents = before ++
        ("@" ++ name ++ "(\n    value = " ++ processor ++ ",\n    comments = " ++ comments ++
          "\n)\n") ++ after := by
  have hfile : (sourceFile hostileSettings clockBinding.toPlan).toOption.isSome = true := by decide
  obtain ⟨f, hf⟩ := Option.isSome_iff_exists.mp hfile
  have hrendered := renderModule_eq_ok_iff.mpr ⟨f, toOption_eq_some.mp hf, rfl⟩
  exact ⟨f.artifact, hrendered, rfl,
    literals_are_lossless.2 hostileSettings clockBinding f.artifact hrendered rfl⟩

end Bindery.Java
