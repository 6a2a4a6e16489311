import Bindery.Name.Error
import Bindery.Text.Identifier
import Bindery.Text.Split

/-!
# Class names

A `ClassName` keeps the package and the chain of nested simple names apart.  Its dotted text does
not: package segments are told from class names by case, the leading segments that start with a
lowercase letter forming the package.

Nesting is written `Outer.Inner` in the canonical and `Outer$Inner` in the reflection name, and
`ClassName.ofText` reads both.  They are not equally good.  A simple name after the first may start
with a digit when it is read after a dollar sign, so the canonical name of such a class cannot be
read back.
-/

namespace Bindery

open Text

/-- A fully qualified class name, possibly of a nested class. -/
structure ClassName where
  /-- The package, empty for the default package. -/
  package : String
  /-- The simple name of the outermost class. -/
  outermost : String
  /-- The simple names nested in it, outermost first. -/
  nested : List String := []
  deriving DecidableEq, Repr, Inhabited

namespace ClassName

/-! ### Parts -/

/-- All simple names, outermost first. -/
def simpleNames (c : ClassName) : List String := c.outermost :: c.nested

/-- The innermost simple name. -/
def simpleName (c : ClassName) : String := c.nested.getLastD c.outermost

/-- The class at the outer end of the nesting chain. -/
def topLevel (c : ClassName) : ClassName := { c with nested := [] }

/-- The class directly around a nested class. -/
def enclosing? (c : ClassName) : Option ClassName :=
  if c.nested.isEmpty then none else some { c with nested := c.nested.dropLast }

/-- Nested classes have a class around them. -/
def isNested (c : ClassName) : Bool := !c.nested.isEmpty

/-- A class nested directly inside this one. -/
def member (c : ClassName) (name : String) : ClassName := { c with nested := c.nested ++ [name] }

/-- A class beside this one, in the same package and the same enclosing class. -/
def sibling (c : ClassName) (name : String) : ClassName :=
  match c.enclosing? with
  | some around => around.member name
  | none => { c with outermost := name }

/-- The class and those around it, innermost first. -/
def chain (c : ClassName) : List ClassName :=
  if c.nested.isEmpty then [c]
  else c :: chain { c with nested := c.nested.dropLast }
termination_by c.nested.length
decreasing_by
  simp only [List.length_dropLast]
  cases h : c.nested with
  | nil => simp_all
  | cons _ _ => simp

/-! ### Written forms -/

/-- A name qualified by its package, unless that is the default package. -/
def qualified (package : String) (name : String) : String :=
  if package.isEmpty then name else s!"{package}.{name}"

/-- The name as written in source code, such as `a.b.Outer.Inner`. -/
def canonicalName (c : ClassName) : String := qualified c.package (joinNames '.' c.simpleNames)

/-- The name with nesting kept apart from packages, such as `a.b.Outer$Inner`. -/
def reflectionName (c : ClassName) : String := qualified c.package (joinNames '$' c.simpleNames)

/-! ### Reading -/

/-- A segment between dots has to be a non-empty identifier. -/
def checkSegment (segment : List Char) : Except NameFault Unit :=
  if segment.isEmpty then .error .emptySegment
  else if isIdentifier segment then .ok ()
  else .error (.notIdentifier (String.ofList segment))

/-- A segment that starts with a lowercase letter belongs to the package while no class came before. -/
def isPackageSegment : List Char → Bool
  | [] => false
  | c :: _ => isLowercase c

/-- The simple names of a class segment, which separates them by dollar signs. -/
def readNames (segment : List Char) : Except NameFault (List (List Char)) :=
  let names := splitOn '$' segment
  if names.any List.isEmpty then .error .emptyNestedName else .ok names

/-- The simple names of all segments from the first class on. -/
def readSimpleNames : List (List Char) → Except NameFault (List (List Char))
  | [] => .ok []
  | segment :: rest => do
    checkSegment segment
    let names ← readNames segment
    let others ← readSimpleNames rest
    return names ++ others

/-- A class name from its segments, those in `package` having been read before. -/
def ofSegments (package : List (List Char)) : List (List Char) → Except NameFault ClassName
  | [] => .error .noClassName
  | segment :: rest => do
    checkSegment segment
    if isPackageSegment segment then
      ofSegments (package ++ [segment]) rest
    else
      match ← readSimpleNames (segment :: rest) with
      | [] => .error .noClassName
      | outermost :: nested =>
        return ⟨String.ofList (joinWith ['.'] package), String.ofList outermost,
          nested.map String.ofList⟩

/-- The class that a dotted text names, blanks around it aside. -/
def ofChars (text : List Char) : Except NameError ClassName :=
  let trimmed := trim text
  match ofSegments [] (splitOn '.' trimmed) with
  | .ok c => .ok c
  | .error fault => .error ⟨String.ofList trimmed, fault⟩

/-- The class that a dotted text names, blanks around it aside. -/
def ofText (text : String) : Except NameError ClassName := ofChars text.toList

/-- A class from its package and its simple names, which have to be non-empty. -/
def ofNames (package : String) (names : List String) : Except NameError ClassName :=
  match names with
  | [] => .error ⟨s!"{package}.", .emptyClassName⟩
  | outermost :: nested =>
    if names.any String.isEmpty then
      .error ⟨package ++ "." ++ joinNames '$' names, .emptyClassName⟩
    else .ok ⟨package, outermost, nested⟩

end ClassName

end Bindery
