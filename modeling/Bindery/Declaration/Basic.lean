import Bindery.Declaration.Annotation
import Bindery.Name.TypeName
import Bindery.Text.Case

/-!
# Declarations

A `Declaration` is what a module is generated for: a class, a function, or a property.  The `Marker`
on it says how it wants to be bound.

A property is called through the function that reads it, so `PropertyDeclaration.getter` turns it
into a `FunctionDeclaration` without parameters, and everything that is said of functions is said of
properties through it.  The name of that function is derived from the name of the property as the
compiler does it.
-/

namespace Bindery

open Text

/-! ### Parts of declarations -/

/-- Who may use a declaration. -/
inductive Visibility where
  | publicUse
  | protectedUse
  | internalUse
  | packageUse
  | privateUse
  deriving DecidableEq, Repr

/-- A parameter of a constructor or a function. -/
structure Parameter where
  name : String
  type : TypeName
  annotations : List Annotation := []
  deriving DecidableEq, Repr

/-- A constructor of a class. -/
structure Constructor where
  visibility : Visibility := .publicUse
  /-- Whether the constructor is marked as the one to inject through. -/
  injectable : Bool := false
  parameters : List Parameter := []
  deriving DecidableEq, Repr

/-- The types whose plain names stand for a binding class that was not given. -/
def placeholderNames : List String := ["java.lang.Void", "java.lang.Object", "kotlin.Nothing"]

/-- The binding class that a type states: placeholders state none. -/
def statedBinding? : Option TypeName → Option TypeName
  | some (.plain c) => if placeholderNames.contains c.canonicalName then none else some (.plain c)
  | other => other

/-- The wishes stated on a declaration. -/
structure Marker where
  /-- The type to bind, if one was stated. -/
  bindingClass : Option TypeName := none
  /-- The component to install in, if one was stated. -/
  installIn : Option ClassName := none
  /-- Whether the module is installed at all. -/
  install : Bool := true
  /-- Whether the type to bind may be inferred from supertypes. -/
  bindSuperType : Bool := true
  deriving DecidableEq, Repr

/-! ### Classes -/

/-- A class that asks for a module. -/
structure ClassDeclaration where
  name : ClassName
  visibility : Visibility := .publicUse
  /-- A nested class is static when it needs no instance of the class around it. -/
  isStatic : Bool := false
  superclass : Option TypeName := none
  interfaces : List TypeName := []
  constructors : List Constructor := []
  annotations : List Annotation := []
  marker : Marker := {}
  deriving DecidableEq, Repr

/-- The types at the top of every hierarchy, which nobody binds. -/
def rootNames : List String := ["java.lang.Object", "kotlin.Any"]

/-- Whether a type is at the top of every hierarchy. -/
def TypeName.isRoot (t : TypeName) : Bool :=
  match t.rawClass? with
  | some c => rootNames.contains c.canonicalName
  | none => false

namespace ClassDeclaration

/-- The type that the class itself is. -/
def ownType (d : ClassDeclaration) : TypeName := .plain d.name

/-- The superclass, unless it is at the top of every hierarchy. -/
def realSuperclass? (d : ClassDeclaration) : Option TypeName := d.superclass.filter (!·.isRoot)

/-- The constructors to inject through. -/
def injectableConstructors (d : ClassDeclaration) : List Constructor :=
  d.constructors.filter (·.injectable)

end ClassDeclaration

/-! ### Functions and properties -/

/-- A function that asks for a module. -/
structure FunctionDeclaration where
  /-- The class, object or file that declares the function. -/
  container : ClassName
  name : String
  visibility : Visibility := .publicUse
  isStatic : Bool := false
  parameters : List Parameter := []
  returnType : TypeName
  annotations : List Annotation := []
  marker : Marker := {}
  deriving DecidableEq, Repr

/-- A property whose getter asks for a module. -/
structure PropertyDeclaration where
  container : ClassName
  property : String
  visibility : Visibility := .publicUse
  isStatic : Bool := false
  returnType : TypeName
  annotations : List Annotation := []
  marker : Marker := {}
  deriving DecidableEq, Repr

/-- How messages name a function. -/
def FunctionDeclaration.displayName (d : FunctionDeclaration) : String :=
  s!"{d.container.canonicalName}.{d.name}"

/-- The name of the function that reads a property: `isReady` keeps its name and `baseUrl` becomes
`getBaseUrl`. -/
def getterName (property : String) : String :=
  match property.toList with
  | 'i' :: 's' :: c :: rest =>
    if isUppercase c then property else String.ofList ("get".toList ++ capitalize ('i' :: 's' :: c :: rest))
  | other => String.ofList ("get".toList ++ capitalize other)

namespace PropertyDeclaration

/-- The name of the function that reads the property. -/
def accessorName (d : PropertyDeclaration) : String := getterName d.property

/-- The function that reads the property. -/
def getter (d : PropertyDeclaration) : FunctionDeclaration where
  container := d.container
  name := d.accessorName
  visibility := d.visibility
  isStatic := d.isStatic
  parameters := []
  returnType := d.returnType
  annotations := d.annotations
  marker := d.marker

end PropertyDeclaration

/-! ### Declarations -/

/-- What a module is generated for. -/
inductive Declaration where
  | ofClass (d : ClassDeclaration)
  | ofFunction (d : FunctionDeclaration)
  | ofProperty (d : PropertyDeclaration)
  deriving DecidableEq, Repr

namespace Declaration

/-- How messages name a declaration. -/
def displayName : Declaration → String
  | .ofClass d => d.name.canonicalName
  | .ofFunction d => d.displayName
  | .ofProperty d => d.getter.displayName

/-- The wishes stated on a declaration. -/
def marker : Declaration → Marker
  | .ofClass d => d.marker
  | .ofFunction d => d.marker
  | .ofProperty d => d.marker

/-- Who may use a declaration. -/
def visibility : Declaration → Visibility
  | .ofClass d => d.visibility
  | .ofFunction d => d.visibility
  | .ofProperty d => d.visibility

/-- The annotations on a declaration. -/
def annotations : Declaration → List Annotation
  | .ofClass d => d.annotations
  | .ofFunction d => d.annotations
  | .ofProperty d => d.annotations

/-- The package that the generated module belongs to. -/
def package : Declaration → String
  | .ofClass d => d.name.package
  | .ofFunction d => d.container.package
  | .ofProperty d => d.container.package

end Declaration

end Bindery
