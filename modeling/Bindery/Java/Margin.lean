import Bindery.Java.Layout
import Bindery.Java.Scope

/-!
# Margins

Marks are written line by line.  Every line that is not empty begins at the margin, and the further
lines of a statement begin two levels to the right of it.  A `Margin` says where lines begin, in
which part of a statement one is, and whether the current line is still empty; `glyphs` takes it
through the marks of a file.
-/

namespace Bindery.Java

/-- Where lines begin. -/
structure Margin where
  level : Nat := 0
  /-- How many line ends a statement has had so far, inside a statement. -/
  statement : Option Nat := none
  /-- Whether nothing stands on the current line yet, and it is not the first. -/
  fresh : Bool := false
  deriving DecidableEq, Repr

namespace Margin

/-- The margin behind the end of a line.  The first one in a statement moves it right. -/
def newline (m : Margin) : Margin :=
  match m.statement with
  | none => { m with fresh := true }
  | some 0 => ⟨m.level + 2, some 1, true⟩
  | some lines => ⟨m.level, some (lines + 1), true⟩

/-- The glyphs of a text at a margin, and the margin behind it. -/
def write (m : Margin) : List Char → Margin × List Glyph
  | [] => (m, [])
  | c :: rest =>
    if c = '\n' then
      let (behind, others) := m.newline.write rest
      (behind, .char c :: others)
    else
      let (behind, others) := ({ m with fresh := false } : Margin).write rest
      (behind, (if m.fresh then (indentation m.level).map .char else []) ++ .char c :: others)

/-- The margin some levels to the right. -/
def indent (m : Margin) (levels : Nat) : Margin := { m with level := m.level + levels }

/-- The margin some levels to the left. -/
def unindent (m : Margin) (levels : Nat) : Margin := { m with level := m.level - levels }

/-- The margin inside a new statement. -/
def openStatement (m : Margin) : Margin := { m with statement := some 0 }

/-- The margin behind a statement, back where it was before the further lines. -/
def closeStatement (m : Margin) : Margin :=
  match m.statement with
  | none | some 0 => { m with statement := none }
  | some _ => { m.unindent 2 with statement := none }

end Margin

/-- The glyphs of marks, in a scope and at a margin. -/
def glyphs (s : Scope) (m : Margin) : List Mark → List Glyph
  | [] => []
  | .text t :: marks =>
    let (behind, written) := m.write t.toList
    written ++ glyphs s behind marks
  | .reference c :: marks =>
    let (behind, written) := m.write (s.nameOf c).toList
    written ++ glyphs s behind marks
  | .space :: marks => .space (m.level + 2) :: glyphs s m marks
  | .indent levels :: marks => glyphs s (m.indent levels) marks
  | .unindent levels :: marks => glyphs s (m.unindent levels) marks
  | .openStatement :: marks => glyphs s m.openStatement marks
  | .closeStatement :: marks => glyphs s m.closeStatement marks
  | .enter name :: marks => glyphs { s with declared := some name } m marks
  | .leave :: marks => glyphs { s with declared := none } m marks

end Bindery.Java
