import Bindery.Java.SourceFile
import Bindery.Proofs.Java.Filling
import Mathlib.Data.List.Forall2

/-!
# What marks are written as

Marks go through two layers before they are text: the margin puts indentation in front of lines, and
the filling decides where lines are broken.  The margin carries everything written before, but a
mark only depends on little of it.  Inside a line a text is written as it is (`Inline`), at the
start of a line the indentation comes first (`Keeps`), and in a statement only the first end of a
line moves the margin.

The two layers meet in `Writes`, which is about whole lines.  It is closed under putting lines
behind each other, so the text of a file is found piece by piece.  There is a rule for each way in
which a generated file puts pieces together: a plain line, a line that may be broken between items
(`writes_filled`), items with a line each (`writes_separated_lines`), and the statement of a body
(`writes_callStatement`).
-/

namespace Bindery.Java

theorem separated_cons_cons (separator first second : List Mark) (rest : List (List Mark)) :
    separated separator (first :: second :: rest) =
      first ++ separator ++ separated separator (second :: rest) := rfl

/-! ### Back to the margin -/

/-- **Marks that are written as a text and lead back to the margin.** -/
def Keeps (s : Scope) (m : Margin) (marks : List Mark) (text : String) : Prop :=
  ∀ rest, glyphs s m (marks ++ rest) = chars text ++ glyphs s m rest

namespace Keeps

variable {s : Scope} {m : Margin} {first second marks : List Mark} {written other : String}

theorem nil : Keeps s m [] "" := fun _ => rfl

theorem append (h : Keeps s m first written) (h' : Keeps s m second other) :
    Keeps s m (first ++ second) (written ++ other) := by
  intro rest
  rw [List.append_assoc, h, h', chars_append, List.append_assoc]

/-- Moving the margin to the right and back. -/
theorem indented (levels : Nat) (h : Keeps s (m.indent levels) marks written) :
    Keeps s m ([Mark.indent levels] ++ marks ++ [Mark.unindent levels]) written := by
  intro rest
  rw [List.append_assoc, List.append_assoc, List.singleton_append, glyphs, h, List.singleton_append,
    glyphs, Margin.unindent, Margin.indent, Nat.add_sub_cancel]

end Keeps

/-! ### Inside a line -/

/-- Inside a line a flat text is written as it is. -/
theorem write_of_isFlat (level : Nat) (statement : Option Nat) {text : List Char}
    (h : '\n' ∉ text) :
    (⟨level, statement, false⟩ : Margin).write text =
      (⟨level, statement, false⟩, text.map .char) := by
  induction text with
  | nil => rfl
  | cons c rest ih =>
      rw [List.mem_cons, not_or] at h
      rw [Margin.write, if_neg (Ne.symm h.1), ih h.2]
      rfl

/-- **Marks that are written as a text inside any line**, and do not end the line. -/
structure Inline (s : Scope) (marks : List Mark) (text : String) : Prop where
  keeps : ∀ level statement, Keeps s ⟨level, statement, false⟩ marks text
  flat : IsFlat text

namespace Inline

variable {s : Scope} {first second marks : List Mark} {written other : String}

theorem nil : Inline s [] "" := ⟨fun _ _ => .nil, by decide⟩

theorem append (h : Inline s first written) (h' : Inline s second other) :
    Inline s (first ++ second) (written ++ other) :=
  ⟨fun level statement => (h.keeps level statement).append (h'.keeps level statement),
    h.flat.append h'.flat⟩

theorem indented (levels : Nat) (h : Inline s marks written) :
    Inline s ([Mark.indent levels] ++ marks ++ [Mark.unindent levels]) written :=
  ⟨fun level statement => .indented levels (h.keeps (level + levels) statement), h.flat⟩

theorem separated {separator : List Mark} {between : String} (hbetween : Inline s separator between)
    {items : List (List Mark)} {texts : List String} (h : List.Forall₂ (Inline s) items texts) :
    Inline s (separated separator items) (between.intercalate texts) := by
  induction h with
  | nil => exact nil
  | @cons item text items texts hitem hitems ih =>
      cases hitems with
      | nil =>
          rw [String.intercalate_singleton]
          exact hitem
      | cons hnext hitems =>
          rw [separated_cons_cons, String.intercalate_cons_cons]
          exact (hitem.append hbetween).append ih

theorem text (t : String) (h : IsFlat t) : Inline s [.text t] t := by
  refine ⟨fun level statement rest => ?_, h⟩
  rw [List.singleton_append, glyphs, write_of_isFlat level statement h]
  rfl

theorem reference {c : ClassName} (h : IsFlat (s.nameOf c)) :
    Inline s [.reference c] (s.nameOf c) := by
  refine ⟨fun level statement rest => ?_, h⟩
  rw [List.singleton_append, glyphs, write_of_isFlat level statement h]
  rfl

end Inline

/-! ### Ends of lines -/

/-- Marks whose first character stands on the line that they begin. -/
def begins : List Mark → Bool
  | .text t :: rest =>
    match t.toList with
    | [] => begins rest
    | c :: _ => c != '\n'
  | _ => false

/-- An empty text leaves the beginning of a line to what follows. -/
theorem begins_text {t : String} (h : IsFlat t) {rest : List Mark}
    (hrest : t = "" → begins rest = true) :
    begins (.text t :: rest) = true := by
  rw [begins]
  cases ht : t.toList with
  | nil => exact hrest (String.toList_eq_nil_iff.mp ht)
  | cons c content =>
      rw [IsFlat, ht, List.mem_cons, not_or] at h
      simpa using Ne.symm h.1

theorem begins_append {first : List Mark} (h : begins first = true) (second : List Mark) :
    begins (first ++ second) = true := by
  induction first with
  | nil => cases h
  | cons mark first ih =>
      cases mark with
      | text t =>
          rw [begins] at h
          rw [List.cons_append, begins]
          split
          next ht =>
            rw [ht] at h
            exact ih h
          next ht =>
            rw [ht] at h
            exact h
      | _ => cases h

/-- Behind the end of a line the indentation comes first. -/
theorem glyphs_fresh (s : Scope) (level : Nat) (statement : Option Nat) {marks : List Mark}
    (h : begins marks = true) (rest : List Mark) :
    glyphs s ⟨level, statement, true⟩ (marks ++ rest) =
      chars (spaces level) ++ glyphs s ⟨level, statement, false⟩ (marks ++ rest) := by
  induction marks with
  | nil => cases h
  | cons mark marks ih =>
      cases mark with
      | text t =>
          rw [begins] at h
          rw [List.cons_append, glyphs, glyphs]
          cases ht : t.toList with
          | nil =>
              rw [ht] at h
              exact ih h
          | cons c t =>
              rw [ht] at h
              have hc : c ≠ '\n' := by simpa using h
              rw [Margin.write, Margin.write, if_neg hc, if_neg hc]
              simp
      | _ => cases h

theorem write_append (m : Margin) (first second : List Char) :
    m.write (first ++ second) =
      (((m.write first).1.write second).1,
        (m.write first).2 ++ ((m.write first).1.write second).2) := by
  induction first generalizing m with
  | nil => rfl
  | cons c first ih =>
      rw [List.cons_append, Margin.write, Margin.write]
      split
      · rw [ih]
        rfl
      · rw [ih]
        simp

/-- A text may be cut anywhere. -/
theorem glyphs_text_append (s : Scope) (m : Margin) (before : List Mark) (first second : String)
    (rest : List Mark) :
    glyphs s m (before ++ .text (first ++ second) :: rest) =
      glyphs s m (before ++ .text first :: .text second :: rest) := by
  induction before generalizing s m with
  | nil =>
      simp only [List.nil_append, glyphs, String.toList_append, write_append, List.append_assoc]
  | cons mark before ih => cases mark <;> simp only [List.cons_append, glyphs, ih]

/-- The end of a line. -/
theorem glyphs_newline (s : Scope) (m : Margin) (rest : List Mark) :
    glyphs s m (.text "\n" :: rest) = .char '\n' :: glyphs s m.newline rest := by
  rfl

/-- Inside a statement the margin behind a text does not depend on the number of lines before it. -/
theorem write_statement (level lines others : Nat) (fresh : Bool) (text : List Char) :
    ∃ after after' behind written,
      (⟨level, some (lines + 1), fresh⟩ : Margin).write text =
        (⟨level, some (after + 1), behind⟩, written) ∧
      (⟨level, some (others + 1), fresh⟩ : Margin).write text =
        (⟨level, some (after' + 1), behind⟩, written) := by
  -- the counts drift apart by what they began with, and neither becomes the first line again
  induction text generalizing lines others fresh with
  | nil => exact ⟨lines, others, fresh, [], rfl, rfl⟩
  | cons c text ih =>
      by_cases hc : c = '\n'
      · obtain ⟨after, after', behind, written, h, h'⟩ := ih (lines + 1) (others + 1) true
        refine ⟨after, after', behind, .char c :: written, ?_, ?_⟩
        · simp only [Margin.write, if_pos hc, Margin.newline, h]
        · simp only [Margin.write, if_pos hc, Margin.newline, h']
      · obtain ⟨after, after', behind, written, h, h'⟩ := ih lines others false
        refine ⟨after, after', behind,
          (if fresh then (indentation level).map .char else []) ++ .char c :: written, ?_, ?_⟩
        · simp only [Margin.write, if_neg hc, h]
        · simp only [Margin.write, if_neg hc, h']

/-- Only the first end of a line moves the margin of a statement, so the later ones need no
counting. -/
theorem glyphs_statement (s : Scope) (level lines others : Nat) (fresh : Bool) (marks : List Mark) :
    glyphs s ⟨level, some (lines + 1), fresh⟩ marks =
      glyphs s ⟨level, some (others + 1), fresh⟩ marks := by
  induction marks generalizing s level lines others fresh with
  | nil => rfl
  | cons mark marks ih =>
      cases mark with
      | text t =>
          obtain ⟨after, after', behind, written, h, h'⟩ :=
            write_statement level lines others fresh t.toList
          rw [glyphs, glyphs, h, h']
          exact congrArg _ (ih s level after after' behind)
      | reference c =>
          obtain ⟨after, after', behind, written, h, h'⟩ :=
            write_statement level lines others fresh (s.nameOf c).toList
          rw [glyphs, glyphs, h, h']
          exact congrArg _ (ih s level after after' behind)
      | space => exact congrArg _ (ih s level lines others fresh)
      | indent levels => exact ih s (level + levels) lines others fresh
      | unindent levels => exact ih s (level - levels) lines others fresh
      | openStatement => rfl
      | closeStatement => rfl
      | enter name => exact ih { s with declared := some name } level lines others fresh
      | leave => exact ih { s with declared := none } level lines others fresh

/-- Whether the next line begins where the last one did: outside of statements, and behind the
first line of one. -/
def IsSettled (statement : Option Nat) : Prop := statement = none ∨ statement = some 1

theorem glyphs_newline_of_settled (s : Scope) (level : Nat) {statement : Option Nat}
    (h : IsSettled statement) (fresh : Bool) (rest : List Mark) :
    glyphs s ⟨level, statement, fresh⟩ (.text "\n" :: rest) =
      .char '\n' :: glyphs s ⟨level, statement, true⟩ rest := by
  rw [glyphs_newline]
  rcases h with rfl | rfl
  · rfl
  · exact congrArg _ (glyphs_statement s level 1 0 true rest)

/-- A text that ends its line. -/
theorem glyphs_line_end (s : Scope) (level : Nat) {statement : Option Nat} (h : IsSettled statement)
    (text : String) (htext : IsFlat text) (rest : List Mark) :
    glyphs s ⟨level, statement, false⟩ (.text (text ++ "\n") :: rest) =
      chars (text ++ "\n") ++ glyphs s ⟨level, statement, true⟩ rest := by
  have hcut := glyphs_text_append s ⟨level, statement, false⟩ [] text "\n" rest
  rw [List.nil_append, List.nil_append] at hcut
  rw [hcut, ← List.singleton_append, (Inline.text text htext).keeps,
    glyphs_newline_of_settled s level h, chars_append, List.append_assoc]
  rfl

/-- The marks of a line are written as the indented line. -/
theorem Inline.keeps_line {s : Scope} {marks : List Mark} {written : String}
    (h : Inline s marks written) (hbegins : begins marks = true) (level : Nat)
    {statement : Option Nat} (hsettled : IsSettled statement) :
    Keeps s ⟨level, statement, true⟩ (marks ++ [Mark.text "\n"]) (line level written) := by
  intro rest
  rw [List.append_assoc, glyphs_fresh s level statement hbegins, h.keeps, List.singleton_append,
    glyphs_newline_of_settled s level hsettled, line, chars_append, chars_append]
  simp [chars]

/-- Items with a comma and the end of a line between each two are indented alike.  The last of
them is not at the end of its line yet, and without items the line begins with what follows. -/
theorem glyphs_separated_lines {s : Scope} {items : List (List Mark)} {texts : List String}
    (h : List.Forall₂ (Inline s) items texts) (hbegins : ∀ item ∈ items, begins item = true)
    (level : Nat) {statement : Option Nat} (hsettled : IsSettled statement) {rest : List Mark}
    (hrest : items = [] → begins rest = true) :
    glyphs s ⟨level, statement, true⟩ (separated [.text ",\n"] items ++ rest) =
      chars (spaces level ++ (",\n" ++ spaces level).intercalate texts) ++
        glyphs s ⟨level, statement, false⟩ rest := by
  induction h with
  | nil =>
      have hfresh := glyphs_fresh s level statement (hrest rfl) []
      simpa [separated] using hfresh
  | @cons item text items texts hitem hitems ih =>
      have hfirst := glyphs_fresh s level statement (hbegins item List.mem_cons_self)
      cases hitems with
      | nil =>
          rw [separated, hfirst, hitem.keeps, String.intercalate_singleton, chars_append,
            List.append_assoc]
      | cons hnext hitems =>
          have hothers := ih (fun item hitem => hbegins item (List.mem_cons_of_mem _ hitem))
            fun hnil => absurd hnil (List.cons_ne_nil _ _)
          have hcomma (rest : List Mark) :
              glyphs s ⟨level, statement, false⟩ (.text ",\n" :: rest) =
              chars ",\n" ++ glyphs s ⟨level, statement, true⟩ rest :=
            glyphs_line_end s level hsettled "," (by decide) rest
          rw [separated_cons_cons, List.append_assoc, List.append_assoc, hfirst, hitem.keeps,
            List.singleton_append, hcomma, hothers, String.intercalate_cons_cons]
          simp only [chars_append, List.append_assoc]

/-- A list between two texts is written in pieces. -/
theorem glyphs_pieces {s : Scope} (level : Nat) {opening closing : List Mark}
    {before behind : String} (hopening : Inline s opening before)
    (hclosing : Inline s closing behind) {items : List (List Mark)} {texts : List String}
    (h : List.Forall₂ (Inline s) items texts) (rest : List Mark) :
    glyphs s ⟨level, none, false⟩
        (opening ++ separated [.text ",", .space] items ++ closing ++ rest) =
      filledGlyphs (level + 2) (pieces before behind texts) ++
        glyphs s ⟨level, none, false⟩ rest := by
  -- each item joins the piece before it, so the induction is on the rest behind any opening
  induction h generalizing opening before with
  | nil =>
      rw [separated, List.append_nil, (hopening.append hclosing).keeps, pieces, filledGlyphs]
      simp [pieceGlyphs]
  | @cons item text items texts hitem hitems ih =>
      cases hitems with
      | nil =>
          rw [separated, ((hopening.append hitem).append hclosing).keeps, pieces, filledGlyphs]
          simp [pieceGlyphs]
      | @cons next other items texts hnext hitems =>
          have hpiece := ((hopening.append hitem).append (.text "," (by decide))).keeps level none
          have hmarks :
              opening ++ separated [.text ",", .space] (item :: next :: items) ++ closing ++ rest =
              opening ++ item ++ [Mark.text ","] ++
                .space :: ([] ++ separated [.text ",", .space] (next :: items) ++
                  closing ++ rest) := by
            simp [separated_cons_cons]
          obtain ⟨piece, others, hpieces⟩ := exists_pieces_eq_cons "" behind (other :: texts)
          rw [hmarks, hpiece, glyphs, ih .nil, pieces_cons_cons, hpieces]
          simp [filledGlyphs, pieceGlyphs]

/-! ### Whole lines -/

/-- **Marks that come out of both layers as lines at a level.** -/
def Writes (s : Scope) (level : Nat) (marks : List Mark) (text : String) : Prop :=
  ∀ rest, fill indentUnit columnLimit 0 none (glyphs s ⟨level, none, true⟩ (marks ++ rest)) =
    text.toList ++ fill indentUnit columnLimit 0 none (glyphs s ⟨level, none, true⟩ rest)

theorem Keeps.writes {s : Scope} {level : Nat} {marks : List Mark} {written : String}
    (h : Keeps s ⟨level, none, true⟩ marks written) (hlines : IsLines written) :
    Writes s level marks written := by
  intro rest
  rw [h, fill_lines hlines]

namespace Writes

variable {s : Scope} {level : Nat} {first second marks : List Mark} {written other : String}

theorem nil : Writes s level [] "" := fun _ => rfl

theorem append (h : Writes s level first written) (h' : Writes s level second other) :
    Writes s level (first ++ second) (written ++ other) := by
  intro rest
  rw [List.append_assoc, h, h', String.toList_append, List.append_assoc]

/-- Lines further to the right. -/
theorem indented (levels : Nat) (h : Writes s (level + levels) marks written) :
    Writes s level ([Mark.indent levels] ++ marks ++ [Mark.unindent levels]) written := by
  intro rest
  rw [List.append_assoc, List.append_assoc, List.singleton_append, glyphs, Margin.indent, h,
    List.singleton_append, glyphs, Margin.unindent, Nat.add_sub_cancel]

/-- Lines in the body of a type, in a file that declares no other type around it. -/
theorem entered {package : String} {imports : Imports} {name : String}
    (h : Writes ⟨package, some name, imports⟩ level marks written) :
    Writes ⟨package, none, imports⟩ level ([Mark.enter name] ++ marks ++ [Mark.leave]) written := by
  intro rest
  rw [List.append_assoc, List.append_assoc, List.singleton_append, glyphs, h, List.singleton_append,
    glyphs]

/-- An empty line. -/
theorem blank : Writes s level [.text "\n"] "\n" :=
  Keeps.writes (fun _ => rfl) (.inr ⟨"", rfl⟩)

/-- A text may be cut in front of the end of its line. -/
theorem of_cut {before : List Mark} {t : String}
    (h : Writes s level (before ++ [Mark.text t] ++ [Mark.text "\n"]) written) :
    Writes s level (before ++ [Mark.text (t ++ "\n")]) written := by
  intro rest
  rw [← h rest, List.append_assoc, List.singleton_append, glyphs_text_append]
  simp

end Writes

/-- **The marks of a line come out as the indented line.** -/
theorem Inline.writes_line {s : Scope} {marks : List Mark} {written : String}
    (h : Inline s marks written) (hbegins : begins marks = true) (level : Nat) :
    Writes s level (marks ++ [Mark.text "\n"]) (line level written) :=
  (h.keeps_line hbegins level (.inl rfl)).writes (isLines_line level _)

/-- A text with its end of line. -/
theorem writes_text (s : Scope) (level : Nat) {t : String} (h : IsFlat t) (hne : t ≠ "") :
    Writes s level [.text (t ++ "\n")] (line level t) := by
  have hline :=
    (Inline.text (s := s) t h).writes_line (begins_text h fun hempty => absurd hempty hne) level
  exact @Writes.of_cut s level _ [] t hline

/-- **A list with breakable spaces comes out as a filled line.** -/
theorem writes_filled {s : Scope} (level : Nat) {opening closing : List Mark}
    {before behind : String} (hopening : Inline s opening before) (hbegins : begins opening = true)
    (hclosing : Inline s closing behind) (hne : behind ≠ "") {items : List (List Mark)}
    {texts : List String} (h : List.Forall₂ (Inline s) items texts) :
    Writes s level (opening ++ separated [.text ",", .space] items ++ closing ++ [Mark.text "\n"])
      (line level (filled (level + 2) (spaces level).length (pieces before behind texts))) := by
  intro rest
  have hflat : ∀ item ∈ texts, IsFlat item := by
    intro item hitem
    obtain ⟨i, hi, rfl⟩ := List.mem_iff_getElem.mp hitem
    exact (h.get (h.length_eq ▸ hi) hi).flat
  have hmarks : opening ++ separated [.text ",", .space] items ++ closing ++ [Mark.text "\n"] ++ rest =
      opening ++ (separated [.text ",", .space] items ++ closing ++ .text "\n" :: rest) := by
    simp
  have hpieces := glyphs_pieces level hopening hclosing h (.text "\n" :: rest)
  have hspec := pieces_spec hopening.flat hclosing.flat hne hflat
  obtain ⟨piece, others, heq⟩ := exists_pieces_eq_cons before behind texts
  rw [heq] at hpieces hspec ⊢
  -- the indentation and the first piece stay on the line, and the others follow undecided spaces
  rw [hmarks, glyphs_fresh s level none hbegins, ← List.append_assoc, ← List.append_assoc, hpieces,
    glyphs_newline_of_settled s level (.inl rfl), filledGlyphs, List.append_assoc, chars,
    fill_flat (isFlat_spaces level), chars, fill_flat (hspec piece List.mem_cons_self).1,
    fill_pieces fun piece hpiece => hspec piece (List.mem_cons_of_mem _ hpiece)]
  simp [line, filled, String.length_toList]

/-- **Items with a line each, further to the right.** -/
theorem writes_separated_lines {s : Scope} {items : List (List Mark)} {texts : List String}
    (h : List.Forall₂ (Inline s) items texts) (hbegins : ∀ item ∈ items, begins item = true)
    (hne : items ≠ []) (level levels : Nat) :
    Writes s level
      ([Mark.indent levels] ++ separated [.text ",\n"] items ++ [Mark.unindent levels, .text "\n"])
      (line (level + levels) ((",\n" ++ spaces (level + levels)).intercalate texts)) := by
  refine Keeps.writes (fun rest => ?_) (isLines_line _ _)
  rw [List.append_assoc, List.append_assoc, List.singleton_append, glyphs, Margin.indent,
    glyphs_separated_lines h hbegins (level + levels) (.inl rfl) (absurd · hne), List.cons_append,
    glyphs, Margin.unindent, Nat.add_sub_cancel, List.singleton_append,
    glyphs_newline_of_settled s level (.inl rfl), line, chars_append]
  simp [chars]

/-- Behind the first line of a statement, everything is two levels further to the right. -/
theorem glyphs_openStatement {s : Scope} (level : Nat) {opening : List Mark} {before : String}
    (hopening : Inline s opening before) (hbegins : begins opening = true) (rest : List Mark) :
    glyphs s ⟨level, none, true⟩ (.openStatement :: (opening ++ .text "(\n" :: rest)) =
      chars (line level (before ++ "(")) ++ glyphs s ⟨level + 2, some 1, true⟩ rest := by
  have hcut := glyphs_text_append s ⟨level, some 0, false⟩ opening "(" "\n" rest
  have hopen := (hopening.append (.text "(" (by decide))).keeps level (some 0) (.text "\n" :: rest)
  rw [List.append_assoc, List.singleton_append, glyphs_newline] at hopen
  have hfresh := glyphs_fresh s level (some 0) hbegins (.text ("(" ++ "\n") :: rest)
  rw [hcut, hopen] at hfresh
  refine hfresh.trans ?_
  simp [line, chars, Margin.newline]

/-- The last line of a statement takes the levels back. -/
theorem glyphs_closeStatement {s : Scope} (level : Nat) {items : List (List Mark)}
    {texts : List String} (h : List.Forall₂ (Inline s) items texts)
    (hitems : ∀ item ∈ items, begins item = true) (rest : List Mark) :
    glyphs s ⟨level + 2, some 1, true⟩ (separated [.text ",\n"] items ++
        .text ")" :: .text ";\n" :: .closeStatement :: rest) =
      chars (line (level + 2) ((",\n" ++ spaces (level + 2)).intercalate texts ++ ");")) ++
        glyphs s ⟨level, none, true⟩ rest := by
  -- the margin has moved at the first end of a line, and all further lines stay there
  have hsettled : IsSettled (some 1) := .inr rfl
  have hend := glyphs_line_end s (level + 2) hsettled ");" (by decide) (.closeStatement :: rest)
  have hcut := glyphs_text_append s ⟨level + 2, some 1, false⟩ [] ")" ";\n"
    (.closeStatement :: rest)
  rw [glyphs_separated_lines h hitems (level + 2) hsettled fun _ => rfl]
  refine (congrArg _ (hcut.symm.trans hend)).trans ?_
  simp only [line, glyphs, Margin.closeStatement, Margin.unindent, Nat.add_sub_cancel,
    chars_append, List.append_assoc]

/-- **A statement that calls something with an argument to a line.** -/
theorem writes_callStatement {s : Scope} (level : Nat) {opening : List Mark} {before : String}
    (hopening : Inline s opening before) (hbegins : begins opening = true)
    {items : List (List Mark)} {texts : List String} (h : List.Forall₂ (Inline s) items texts)
    (hitems : ∀ item ∈ items, begins item = true) :
    Writes s level ([Mark.openStatement] ++ opening ++ [Mark.text "(\n"] ++ separated [.text ",\n"] items ++
        [Mark.text ")", .text ";\n", .closeStatement])
      (line level (before ++ "(") ++
        line (level + 2) ((",\n" ++ spaces (level + 2)).intercalate texts ++ ");")) := by
  have hlines : IsLines (line level (before ++ "(") ++
      line (level + 2) ((",\n" ++ spaces (level + 2)).intercalate texts ++ ");")) :=
    .inr ⟨_, by rw [line, line, ← String.append_assoc]⟩
  refine Keeps.writes (fun rest => ?_) hlines
  have hmarks : [Mark.openStatement] ++ opening ++ [Mark.text "(\n"] ++ separated [.text ",\n"] items ++
      [Mark.text ")", .text ";\n", .closeStatement] ++ rest =
      .openStatement :: (opening ++ .text "(\n" :: (separated [.text ",\n"] items ++
        .text ")" :: .text ";\n" :: .closeStatement :: rest)) := by
    simp
  rw [hmarks, glyphs_openStatement level hopening hbegins, glyphs_closeStatement level h hitems,
    chars_append, List.append_assoc]

end Bindery.Java
