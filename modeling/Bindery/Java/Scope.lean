import Bindery.Java.Markup

/-!
# Names in scope

How a file may refer to a class.  A simple name means the type in whose body it stands, or an
imported class, or else a class of the package of the file.  A `Scope` records this for a place of a
file, and `Scope.nameOf` is the shortest name by which a class can be referred to there; how the
class stands to the scope (`Standing`) decides which one that is.

The imports of a file have to be chosen before any reference is written, so `suggestedImports`
decides as if nothing were imported.  The first class to ask for a simple name gets it, unless the
name is needed somewhere for a class of the same package.
-/

namespace Bindery.Java

/-- Imported classes by their simple names. -/
abbrev Imports := List (String × ClassName)

/-- What simple names mean at a place of a file. -/
structure Scope where
  /-- The package of the file. -/
  package : String
  /-- The type in whose body the place is. -/
  declared : Option String := none
  imports : Imports := []

/-- How a class stands to a scope. -/
inductive Standing where
  /-- This class, or one around the class, goes by its simple name. -/
  | visible (around : ClassName)
  /-- The simple name of the outermost class means something else. -/
  | shadowed
  /-- The class belongs to the package of the file. -/
  | neighbour
  /-- The class belongs to another package. -/
  | foreign
  deriving DecidableEq, Repr

namespace Scope

/-- The class that a simple name means, classes of the package aside. -/
def meaning? (s : Scope) (name : String) : Option ClassName :=
  if s.declared = some name then some ⟨s.package, name, []⟩ else s.imports.lookup name

/-- Whether a class goes by its simple name. -/
def isVisible (s : Scope) (c : ClassName) : Bool :=
  match s.meaning? c.simpleName with
  | some d => d.canonicalName == c.canonicalName
  | none => false

/-- How a class stands to a scope.  Of the classes around it the innermost one that is visible counts. -/
def standing (s : Scope) (c : ClassName) : Standing :=
  match c.chain.find? s.isVisible with
  | some around => .visible around
  | none =>
    if (s.meaning? c.outermost).isSome then .shadowed
    else if c.package = s.package then .neighbour
    else .foreign

/-- The shortest name that refers to a class. -/
def nameOf (s : Scope) (c : ClassName) : String :=
  match s.standing c with
  | .visible around => Text.joinNames '.' (c.simpleNames.drop around.nested.length)
  | .neighbour => Text.joinNames '.' c.simpleNames
  | .shadowed | .foreign => c.canonicalName

end Scope

/-! ### Imports -/

/-- The imports with one more class, unless its simple name is taken. -/
def Imports.offer (imports : Imports) (c : ClassName) : Imports :=
  if (imports.lookup c.outermost).isSome then imports else imports ++ [(c.outermost, c.topLevel)]

/-- How a referenced class stands to a file of a package without imports. -/
def standingOf (package : String) (reference : Option String × ClassName) : Standing :=
  Scope.standing ⟨package, reference.1, []⟩ reference.2

/-- The classes among references that could be imported: those of other packages that have a name. -/
def importable (package : String) (references : List (Option String × ClassName)) : List ClassName :=
  (references.filter fun r => standingOf package r == .foreign && !r.2.package.isEmpty).map (·.2)

/-- The simple names that references need for classes of the package. -/
def reserved (package : String) (references : List (Option String × ClassName)) : List String :=
  (references.filter fun r => standingOf package r == .neighbour).map (·.2.outermost)

/-- The imports for the references of a file. -/
def suggestedImports (package : String) (references : List (Option String × ClassName)) : Imports :=
  ((importable package references).foldl Imports.offer []).filter fun entry =>
    !(reserved package references).contains entry.1

end Bindery.Java
