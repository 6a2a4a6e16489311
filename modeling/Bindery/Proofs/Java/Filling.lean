import Bindery.Java.Layout
import Mathlib.Data.List.Basic

/-!
# How lines are filled

A space that may become the end of a line is undecided until the text behind it is known.  What
comes out of it only depends on the column of the space and on the pieces of text between the places
for a break: the filling starts anew at every end of a line (`fill_lines`), and a text without
undecided spaces goes through as it is.

The filling holds text back until it can decide.  The decision is the one that looking ahead would
give: a space is kept exactly if everything up to the next place for a break fits behind it
(`fill_kept`, `fill_wrapped`).  `wrapped` states this for a line of pieces as a plain function, with
the limit and the indentation written out, and `fill_pieces` says that the filling computes it.
-/

namespace Bindery.Java

/-! ### Texts and lines -/

/-- A text as glyphs. -/
def chars (text : String) : List Glyph := text.toList.map .char

@[simp] theorem chars_append (first second : String) :
    chars (first ++ second) = chars first ++ chars second := by
  simp [chars]

/-- A text that stays on its line. -/
def IsFlat (text : String) : Prop := '\n' ∉ text.toList

instance (text : String) : Decidable (IsFlat text) :=
  inferInstanceAs (Decidable ('\n' ∉ text.toList))

theorem IsFlat.append {first second : String} (h : IsFlat first) (h' : IsFlat second) :
    IsFlat (first ++ second) := by
  simp only [IsFlat, String.toList_append, List.mem_append, not_or]
  exact ⟨h, h'⟩

/-- The blanks in front of a line at a level of indentation, two for each level. -/
def spaces (level : Nat) : String := String.ofList (List.replicate (2 * level) ' ')

/-- Two blanks for each level are what indents a line. -/
theorem toList_spaces (level : Nat) : (spaces level).toList = indentation level := by
  have hunit : indentUnit = List.replicate 2 ' ' := rfl
  rw [spaces, String.toList_ofList, indentation, indentBy, hunit, List.flatten_replicate_replicate,
    Nat.mul_comm]

@[simp] theorem chars_spaces (level : Nat) :
    chars (spaces level) = (indentation level).map .char := by
  rw [chars, toList_spaces]

theorem isFlat_spaces (level : Nat) : IsFlat (spaces level) := by
  simp [IsFlat, spaces]

/-- A line at a level of indentation. -/
def line (level : Nat) (content : String) : String := spaces level ++ content ++ "\n"

/-! ### Filling lines -/

section Fill

variable {unit : List Char} {limit column : Nat}

/-- Characters go through the filling one by one while no space is undecided. -/
theorem fill_flat {content : List Char} (h : '\n' ∉ content) (rest : List Glyph) :
    fill unit limit column none (content.map .char ++ rest) =
      content ++ fill unit limit (column + content.length) none rest := by
  induction content generalizing column with
  | nil => rfl
  | cons c content ih =>
      rw [List.mem_cons, not_or] at h
      rw [List.map_cons, List.cons_append, fill, if_neg (Ne.symm h.1), ih h.2, List.length_cons,
        Nat.add_assoc, Nat.add_comm 1]
      rfl

/-- A text of whole lines is empty or ends at the end of a line. -/
def IsLines (text : String) : Prop := text = "" ∨ ∃ before, text = before ++ "\n"

theorem isLines_line (level : Nat) (content : String) : IsLines (line level content) :=
  .inr ⟨_, rfl⟩

/-- The filling starts anew behind whole lines. -/
theorem fill_lines {text : String} (h : IsLines text) (rest : List Glyph) :
    fill unit limit 0 none (chars text ++ rest) =
      text.toList ++ fill unit limit 0 none rest := by
  -- whatever the column is, the last character takes it back to the start
  have hend (content : List Char) (column : Nat) :
      fill unit limit column none ((content ++ ['\n']).map .char ++ rest) =
        content ++ ['\n'] ++ fill unit limit 0 none rest := by
    induction content generalizing column with
    | nil => rfl
    | cons c content ih =>
        rw [List.cons_append, List.map_cons, List.cons_append, fill, ih]
        rfl
  rcases h with rfl | ⟨before, rfl⟩
  · rfl
  · rw [chars, String.toList_append]
    exact hend before.toList 0

/-! ### Deciding spaces -/

/-- **How many characters come up** to the end of the line, the next space that may become one, or
the end. -/
def upcoming : List Glyph → Nat
  | .char c :: rest => if c = '\n' then 0 else upcoming rest + 1
  | _ => 0

/-- A text that stays on its line comes up as a whole. -/
theorem upcoming_flat {content : List Char} (h : '\n' ∉ content) (rest : List Glyph) :
    upcoming (content.map .char ++ rest) = content.length + upcoming rest := by
  induction content with
  | nil => simp
  | cons c content ih =>
      rw [List.mem_cons, not_or] at h
      rw [List.map_cons, List.cons_append, upcoming, if_neg (Ne.symm h.1), ih h.2,
        List.length_cons, Nat.add_right_comm]

/-- **An undecided space is kept** if what comes up behind it fits. -/
theorem fill_kept {p : Pending} {glyphs : List Glyph} (h : column + upcoming glyphs ≤ limit) :
    fill unit limit column (some p) glyphs = p.kept ++ fill unit limit column none glyphs := by
  induction glyphs generalizing column p with
  | nil => rw [fill, fill, List.append_nil]
  | cons glyph rest ih =>
      cases glyph with
      | space level => rw [fill, fill]
      | char c =>
          rw [upcoming] at h
          rw [fill, fill]
          by_cases hc : c = '\n'
          · rw [if_pos hc] at h
            rw [if_pos hc, if_pos (by omega), if_pos hc, hc]
          · -- the space is kept for the rest, and the character joins the text behind it
            rw [if_neg hc] at h
            rw [if_neg hc, if_pos (by omega), if_neg hc, ih (by omega)]
            simp [Pending.kept]

/-- Whether text comes first. -/
def isText : List Glyph → Bool
  | .char _ :: _ => true
  | _ => false

/-- Only text comes up. -/
theorem isText_of_upcoming {glyphs : List Glyph} (h : 0 < upcoming glyphs) :
    isText glyphs = true := by
  cases glyphs with
  | nil => cases h
  | cons glyph rest =>
      cases glyph with
      | char c => rfl
      | space level => cases h

/-- **An undecided space becomes the end of the line** if what comes up behind it does not fit. -/
theorem fill_wrapped {p : Pending} {glyphs : List Glyph} (htext : isText glyphs = true)
    (h : limit < column + upcoming glyphs) :
    fill unit limit column (some p) glyphs =
      p.wrapped unit ++ fill unit limit (p.wrappedColumn unit) none glyphs := by
  induction glyphs generalizing column p with
  | nil => cases htext
  | cons glyph rest ih =>
      cases glyph with
      | space level => cases htext
      | char c =>
          by_cases hc : c = '\n'
          · have hover : ¬ column ≤ limit := by
              rw [upcoming, if_pos hc] at h
              omega
            simp [fill, hc, hover]
          · rw [upcoming, if_neg hc] at h
            by_cases hfits : column + 1 ≤ limit
            · -- then more characters follow, and they are broken off together with this one
              have hmore : isText rest = true := isText_of_upcoming (by omega)
              have hheld : fill unit limit column (some p) (.char c :: rest) =
                  fill unit limit (column + 1) (some ⟨p.level, p.held ++ [c]⟩) rest := by
                rw [fill.eq_def]
                simp only [if_neg hc, if_pos hfits]
              rw [hheld, ih hmore (by omega)]
              simp [Pending.wrapped, Pending.wrappedColumn, fill, hc, Nat.add_assoc]
            · simp [fill, hc, hfits]

end Fill

/-- The pieces of a line, each behind a space that may become the end of the line. -/
def pieceGlyphs (level : Nat) (pieces : List String) : List Glyph :=
  pieces.flatMap fun piece => .space level :: chars piece

/-- The next piece begins with a place for a break, and so does the end of the line. -/
theorem upcoming_pieceGlyphs (level : Nat) (pieces : List String) (rest : List Glyph) :
    upcoming (pieceGlyphs level pieces ++ .char '\n' :: rest) = 0 := by
  cases pieces <;> rfl

/-- The pieces behind a column.  Each follows its space where it fits, and otherwise stands on a
line of its own, which is indented by a level. -/
def wrapped (level column : Nat) : List String → String
  | [] => ""
  | piece :: rest =>
    if column + 1 + piece.length ≤ 100 then
      " " ++ piece ++ wrapped level (column + 1 + piece.length) rest
    else
      "\n" ++ spaces level ++ piece ++ wrapped level ((spaces level).length + piece.length) rest

/-- **A line is broken exactly in front of the pieces that do not fit.** -/
theorem fill_pieces {level column : Nat} {pieces : List String}
    (h : ∀ piece ∈ pieces, IsFlat piece ∧ piece ≠ "") (rest : List Glyph) :
    fill indentUnit columnLimit column none (pieceGlyphs level pieces ++ .char '\n' :: rest) =
      (wrapped level column pieces).toList ++
        '\n' :: fill indentUnit columnLimit 0 none rest := by
  induction pieces generalizing column with
  | nil => rfl
  | cons piece pieces ih =>
      obtain ⟨hflat, hne⟩ := h piece List.mem_cons_self
      have hrest (column : Nat) :=
        @ih column fun piece hmem => h piece (List.mem_cons_of_mem _ hmem)
      have hpiece : pieceGlyphs level (piece :: pieces) ++ .char '\n' :: rest =
          .space level :: (piece.toList.map .char ++
            (pieceGlyphs level pieces ++ .char '\n' :: rest)) := by
        simp [pieceGlyphs, chars]
      have hupcoming := upcoming_flat hflat (pieceGlyphs level pieces ++ .char '\n' :: rest)
      rw [upcoming_pieceGlyphs, Nat.add_zero, String.length_toList] at hupcoming
      have hlimit : columnLimit = 100 := rfl
      -- the space in front of a piece is decided by the piece alone
      rw [hpiece, fill, wrapped]
      split
      next hfits =>
        rw [fill_kept (by omega), fill_flat hflat, hrest]
        simp [Pending.kept, String.length_toList]
      next hbreaks =>
        have htext : isText (piece.toList.map .char ++
            (pieceGlyphs level pieces ++ .char '\n' :: rest)) = true := by
          cases hpiece : piece.toList with
          | nil => exact absurd (String.toList_eq_nil_iff.mp hpiece) hne
          | cons c content => rfl
        have hmargin : indentBy indentUnit level = (spaces level).toList :=
          (toList_spaces level).symm
        rw [fill_wrapped htext (by omega), fill_flat hflat, hrest]
        simp [Pending.wrapped, Pending.wrappedColumn, hmargin, String.length_toList]

/-! ### Lists with breakable spaces -/

/-- The pieces of a list that stands between two texts and may be broken behind its commas. -/
def pieces (before behind : String) : List String → List String
  | [] => [before ++ behind]
  | [item] => [before ++ item ++ behind]
  | item :: rest => (before ++ item ++ ",") :: pieces "" behind rest

theorem pieces_cons_cons (before behind item next : String) (rest : List String) :
    pieces before behind (item :: next :: rest) =
      (before ++ item ++ ",") :: pieces "" behind (next :: rest) := rfl

/-- A line made of pieces, the first of which begins at a column. -/
def filled (level column : Nat) : List String → String
  | [] => ""
  | piece :: rest => piece ++ wrapped level (column + piece.length) rest

theorem pieces_spec {before behind : String} {items : List String} (hbefore : IsFlat before)
    (hbehind : IsFlat behind) (hne : behind ≠ "") (h : ∀ item ∈ items, IsFlat item) :
    ∀ piece ∈ pieces before behind items, IsFlat piece ∧ piece ≠ "" := by
  fun_induction pieces before behind items with
  | case1 before => simpa [hne] using hbefore.append hbehind
  | case2 before item =>
      simpa [hne] using (hbefore.append (h item List.mem_cons_self)).append hbehind
  | case3 before item rest hrest ih =>
      intro piece hpiece
      rcases List.mem_cons.mp hpiece with rfl | hpiece
      · exact ⟨(hbefore.append (h item List.mem_cons_self)).append (by decide), by simp⟩
      · exact ih (by decide) (fun item hitem => h item (List.mem_cons_of_mem _ hitem)) piece hpiece

theorem exists_pieces_eq_cons (before behind : String) (items : List String) :
    ∃ piece others, pieces before behind items = piece :: others := by
  fun_cases pieces before behind items <;> exact ⟨_, _, rfl⟩

/-- The glyphs of pieces, of which the first one is not to be broken off. -/
def filledGlyphs (level : Nat) : List String → List Glyph
  | [] => []
  | piece :: rest => chars piece ++ pieceGlyphs level rest

end Bindery.Java
