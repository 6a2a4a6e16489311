import Bindery.Java.Literal
import Bindery.Name.TypeName

/-!
# Fragments of source

A `Fragment` is a piece of source in which types are not written out yet, because how a type is
written depends on the file around it.  Fragments are built from left to right by `Fragment.text`,
`Fragment.type` and the like; an empty text adds nothing.  `Fragment.statement` makes a fragment a
statement of its own, whose further lines are indented.
-/

namespace Bindery.Java

/-- What fragments are made of. -/
inductive Part where
  | text (s : String)
  /-- A type, to be written by the shortest name that the file allows. -/
  | type (t : TypeName)
  /-- A space that may become the end of a line. -/
  | space
  /-- The start of a statement, whose further lines are indented. -/
  | openStatement
  /-- The end of a statement. -/
  | closeStatement
  deriving DecidableEq, Repr

/-- A piece of source. -/
structure Fragment where
  parts : List Part := []
  deriving DecidableEq, Repr

namespace Fragment

/-- Nothing. -/
def empty : Fragment := {}

/-- The fragment with a text behind it. -/
def text (f : Fragment) (s : String) : Fragment :=
  if s.isEmpty then f else ⟨f.parts ++ [.text s]⟩

/-- A text. -/
def ofText (s : String) : Fragment := empty.text s

/-- The fragment with a type behind it. -/
def type (f : Fragment) (t : TypeName) : Fragment := ⟨f.parts ++ [.type t]⟩

/-- The fragment with a class behind it. -/
def className (f : Fragment) (c : ClassName) : Fragment := f.type (.plain c)

/-- The fragment with a string literal behind it. -/
def literal (f : Fragment) (s : String) : Fragment := f.text (Java.literal s)

/-- The fragment with another one behind it. -/
def append (f g : Fragment) : Fragment := ⟨f.parts ++ g.parts⟩

/-- The fragment with a space behind it that may become the end of a line. -/
def space (f : Fragment) : Fragment := ⟨f.parts ++ [.space]⟩

/-- The fragment as a statement. -/
def statement (f : Fragment) : Fragment :=
  ⟨[.openStatement] ++ f.parts ++ [.text ";\n", .closeStatement]⟩

/-- The fragments in order with a separator between each two. -/
def join (separator : String) : List Fragment → Fragment
  | [] => empty
  | [f] => f
  | f :: g :: rest => (f.text separator).append (join separator (g :: rest))

end Fragment

end Bindery.Java
