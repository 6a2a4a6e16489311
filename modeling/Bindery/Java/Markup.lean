import Bindery.Java.Fragment

/-!
# Markup

A source file as a flat sequence of marks: texts, references to classes, places where a line may
end, and changes of the margin.  A file is turned into marks once and read twice.  The first reading
is `references`, the classes in the order of writing, from which the imports are chosen; the second
one writes the text, in which every reference has its name by then.
-/

namespace Bindery.Java

/-- An element of a source file. -/
inductive Mark where
  | text (s : String)
  /-- A reference to a class. -/
  | reference (c : ClassName)
  /-- A space that may become the end of a line. -/
  | space
  /-- The margin moves right. -/
  | indent (levels : Nat)
  /-- The margin moves left. -/
  | unindent (levels : Nat)
  | openStatement
  | closeStatement
  /-- The body of a type begins, in which its simple name means the type. -/
  | enter (name : String)
  /-- The body of a type ends. -/
  | leave
  deriving DecidableEq, Repr

mutual

/-- The marks of a type. -/
def markType : TypeName → List Mark
  | .primitive p => [.text p.keyword]
  | .plain c => [.reference c]
  | .applied raw arguments => [.reference raw, .text "<"] ++ markArguments arguments ++ [.text ">"]
  | .array component => markType component ++ [.text "[]"]

/-- The marks of type arguments. -/
def markArguments : List TypeName → List Mark
  | [] => []
  | [t] => markType t
  | t :: ts => markType t ++ [.text ", "] ++ markArguments ts

end

/-- The marks of a part of a fragment. -/
def Part.marks : Part → List Mark
  | .text s => [.text s]
  | .type t => markType t
  | .space => [.space]
  | .openStatement => [.openStatement]
  | .closeStatement => [.closeStatement]

/-- The marks of a fragment. -/
def Fragment.marks (f : Fragment) : List Mark := f.parts.flatMap Part.marks

/-- The classes that marks refer to, each with the type in whose body the reference stands. -/
def references (declared : Option String) : List Mark → List (Option String × ClassName)
  | [] => []
  | .reference c :: marks => (declared, c) :: references declared marks
  | .enter name :: marks => references (some name) marks
  | .leave :: marks => references none marks
  | _ :: marks => references declared marks

end Bindery.Java
